import Mathlib.Data.List.Basic
import SopDocs.Proofs.Lint.Acronyms
import SopDocs.Proofs.Lint.Origin
import SopDocs.Proofs.Lint.Severity

/-!
# Known outcomes change no finding about references

A run over the targets of a document keeps the outcomes that it has looked up. As long as these
are the outcomes that a lookup would give again, each target is told about as if it were the only
one; what the run keeps shows in the lookups only, one for each remote target, where it is first.
-/

namespace SopDocs.Lint

open Reference

/-! ### Outcomes that are known -/

namespace Lookups

variable {ctx : Context} {l : Lookups} {url : String}

/-- What is known is what a lookup would give. -/
def Faithful (ctx : Context) (l : Lookups) : Prop :=
  ∀ probe, ctx.probe = some probe → ∀ entry ∈ l.known, entry.2 = probe entry.1

theorem faithful_empty (ctx : Context) : empty.Faithful ctx := nofun

theorem asked_empty : empty.asked = [] := rfl

theorem get?_eq_none_iff : l.get? url = none ↔ url ∉ l.asked := by
  unfold get? asked
  rw [Option.map_eq_none_iff, List.find?_eq_none, List.mem_reverse, List.mem_map]
  simp only [beq_iff_eq, not_exists, not_and]

theorem Faithful.get?_eq {probe : Probe} {outcome : Outcome} (h : l.Faithful ctx)
    (hprobe : ctx.probe = some probe) (hget : l.get? url = some outcome) :
    outcome = probe url := by
  obtain ⟨entry, hentry, rfl⟩ := Option.map_eq_some_iff.mp hget
  have hurl : entry.1 = url := by simpa using List.find?_some hentry
  rw [← hurl]
  exact h probe hprobe entry (List.mem_of_find?_eq_some hentry)

theorem Faithful.ask_fst {probe : Probe} (h : l.Faithful ctx) (hprobe : ctx.probe = some probe) :
    (l.ask probe url).1 = probe url := by
  unfold ask
  split
  · next outcome hget => exact h.get?_eq hprobe hget
  · rfl

theorem Faithful.ask_snd {probe : Probe} (h : l.Faithful ctx) (hprobe : ctx.probe = some probe) :
    (l.ask probe url).2.Faithful ctx := by
  unfold ask
  split
  · exact h
  · intro probe' hprobe' entry hentry
    obtain rfl : probe = probe' := Option.some.inj (hprobe.symm.trans hprobe')
    rcases List.mem_cons.mp hentry with rfl | hentry
    · rfl
    · exact h probe hprobe entry hentry

theorem asked_ask (probe : Probe) (url : String) (l : Lookups) :
    (l.ask probe url).2.asked = addNew l.asked url := by
  unfold ask addNew
  split
  · next outcome hget =>
    have hmem : url ∈ l.asked := by
      apply Decidable.byContradiction
      intro hnot
      rw [get?_eq_none_iff.mpr hnot] at hget
      cases hget
    rw [if_pos hmem]
  · next hget =>
    rw [if_neg (get?_eq_none_iff.mp hget)]
    exact List.reverse_cons

end Lookups

/-! ### One target -/

/-- Whether a target is remote. -/
def isRemote (hosts : List String) (url : String) : Bool := classify hosts url = .remote url

/-- The targets that are looked up, every time they occur; none without a probe. -/
def probedAmong (ctx : Context) (urls : List String) : List String :=
  if ctx.probe.isSome then urls.filter (isRemote ctx.conventions.remoteHosts) else []

theorem eq_of_classify_eq_remote {hosts : List String} {url u : String}
    (h : classify hosts url = .remote u) : u = url := by
  unfold classify at h
  split at h
  · cases h
  · split at h
    · split at h
      · exact (Target.remote.inj h).symm
      · cases h
    · cases h

section Steps

variable {ctx : Context} {known : Lookups}

/-- What is known does not show in what is told about a target, and stays what a lookup gives. -/
theorem checkTarget_of_faithful (h : known.Faithful ctx) (url : String) :
    (checkTarget ctx url known).1 = (checkTarget ctx url .empty).1 ∧
      (checkTarget ctx url known).2.Faithful ctx ∧
      (checkTarget ctx url known).2.asked = (probedAmong ctx [url]).foldl addNew known.asked := by
  unfold checkTarget probedAmong
  cases hclass : classify ctx.conventions.remoteHosts url with
  | other => exact ⟨rfl, h, by simp [isRemote, hclass]⟩
  | relative target => exact ⟨rfl, h, by simp [isRemote, hclass]⟩
  | remote u =>
    obtain rfl := eq_of_classify_eq_remote hclass
    cases hprobe : ctx.probe with
    | none => exact ⟨rfl, h, rfl⟩
    | some probe =>
      have hempty : (Lookups.empty.ask probe u).1 = probe u :=
        (Lookups.faithful_empty ctx).ask_fst hprobe
      refine ⟨?_, h.ask_snd hprobe, ?_⟩
      · exact congrArg (outcomeProblems u) ((h.ask_fst hprobe).trans hempty.symm)
      · have hremote : [u].filter (isRemote ctx.conventions.remoteHosts) = [u] := by
          simp [isRemote, hclass]
        rw [hremote]
        exact Lookups.asked_ask probe u known

/-! ### All targets -/

theorem probedAmong_cons (ctx : Context) (url : String) (urls : List String) :
    probedAmong ctx (url :: urls) = probedAmong ctx [url] ++ probedAmong ctx urls := by
  unfold probedAmong
  split
  · rw [← List.filter_append, List.singleton_append]
  · rfl

/-- A run over targets tells about each of them by itself, and looks up, one after the other, those
that are not known. -/
theorem checkTargets_of_faithful (h : known.Faithful ctx) (urls : List String) :
    (checkTargets ctx urls known).1 = urls.flatMap (fun url => (checkTarget ctx url .empty).1) ∧
      (checkTargets ctx urls known).2.asked =
        (probedAmong ctx urls).foldl addNew known.asked := by
  induction urls generalizing known with
  | nil =>
    have hnone : probedAmong ctx [] = [] := by unfold probedAmong; split <;> rfl
    rw [hnone]
    exact ⟨rfl, rfl⟩
  | cons url urls ih =>
    obtain ⟨hproblems, hfaithful, hasked⟩ := checkTarget_of_faithful h url
    obtain ⟨hrest, haskedRest⟩ := ih hfaithful
    refine ⟨?_, ?_⟩
    · rw [List.flatMap_cons, ← hproblems, ← hrest]
      rfl
    · rw [probedAmong_cons, List.foldl_append, ← hasked, ← haskedRest]
      rfl

end Steps

theorem references_eq (ctx : Context) :
    references ctx =
      (linkTargets ctx.root).flatMap fun url => (checkTarget ctx url .empty).1 :=
  (checkTargets_of_faithful (Lookups.faithful_empty ctx) _).1

theorem probedTargets_eq (ctx : Context) :
    probedTargets ctx = firstOccurrences (probedAmong ctx (linkTargets ctx.root)) := by
  have hasked := (checkTargets_of_faithful (Lookups.faithful_empty ctx) (linkTargets ctx.root)).2
  rw [foldl_addNew, Lookups.asked_empty, List.nil_append] at hasked
  exact hasked.trans (List.filter_eq_self.mpr fun _ _ => by simp)

/-! ### Messages -/

/-- What is told about a relative target: that there is no file where it points. -/
def missingMessage? (ctx : Context) (url : String) : Option String :=
  match classify ctx.conventions.remoteHosts url with
  | .relative target =>
    let resolved := resolve ctx.path target
    if ctx.found resolved then none
    else some s!"Reference '{url}' points to '{resolved.text}', which does not exist."
  | _ => none

/-- What is told about the outcome of a lookup, unless the target was reached. -/
def outcomeMessage? (url : String) : Outcome → Option String
  | .reachable => none
  | .notFound => some s!"Reference '{url}' could not be found (HTTP 404)."
  | .unresolvable cause => some s!"Reference '{url}' could not be resolved: {cause}."

/-- What is told about a target that is looked up. -/
def unreachedMessage? (ctx : Context) (url : String) : Option String :=
  if isRemote ctx.conventions.remoteHosts url then
    ctx.probe.bind fun probe => outcomeMessage? url (probe url)
  else none

theorem message_missingTarget (url : String) (resolved : Path) :
    (Problem.missingTarget url resolved).message =
      s!"Reference '{url}' points to '{resolved.text}', which does not exist." := rfl

theorem message_outcomeProblems (url : String) (outcome : Outcome) :
    (outcomeProblems url outcome).map Problem.message = (outcomeMessage? url outcome).toList := by
  cases outcome with
  | reachable => rfl
  | notFound =>
    have hmessage : (Problem.linkNotFound url).message =
        s!"Reference '{url}' could not be found (HTTP 404)." := rfl
    exact congrArg (fun message => [message]) hmessage
  | unresolvable cause =>
    have hmessage : (Problem.linkUnresolvable url cause).message =
        s!"Reference '{url}' could not be resolved: {cause}." := rfl
    exact congrArg (fun message => [message]) hmessage

theorem message_checkTarget (ctx : Context) (url : String) :
    ((checkTarget ctx url .empty).1).map Problem.message =
      ((missingMessage? ctx url).or (unreachedMessage? ctx url)).toList := by
  unfold checkTarget missingMessage? unreachedMessage? isRemote
  cases hclass : classify ctx.conventions.remoteHosts url with
  | other => simp
  | relative target =>
    cases hfound : ctx.found (resolve ctx.path target) <;> simp [hfound, message_missingTarget]
  | remote u =>
    obtain rfl := eq_of_classify_eq_remote hclass
    cases hprobe : ctx.probe with
    | none => simp
    | some probe =>
      have hask : (Lookups.empty.ask probe u).1 = probe u :=
        (Lookups.faithful_empty ctx).ask_fst hprobe
      simp [hask, message_outcomeProblems]

theorem message_references (ctx : Context) :
    (references ctx).map Problem.message = (linkTargets ctx.root).filterMap fun url =>
      (missingMessage? ctx url).or (unreachedMessage? ctx url) := by
  rw [references_eq, List.map_flatMap, List.filterMap_eq_flatMap_toList]
  simp only [message_checkTarget]

theorem isError_of_foundBy_references {p : Problem} (h : p.foundBy = .references) :
    p.isError = true := by
  cases p <;> cases h <;> rfl

/-- **Links are told about one by one, and each remote target is looked up once.** The rule tells,
in the order of the links with a target, of each relative one that there is no file where it points
and of each remote one, every time it occurs, what keeps a lookup from reaching it. It looks up
exactly the remote targets, each once, in the order in which they are first. Without a probe it
looks up none and tells of the relative ones alone. -/
theorem references_reported (ctx : Context) (strict : Bool) :
    let links := ctx.root.findAll .link
    let remote := (links.filterMap (·.target)).filter (isRemote ctx.conventions.remoteHosts)
    let asked := Rule.references.probed ctx
    Rule.references.check ctx strict .empty =
      ⟨links.filterMap fun link => link.target.bind fun url =>
        (missingMessage? ctx url).or (unreachedMessage? ctx url), []⟩ ∧
    (ctx.probe.isSome = true → (∀ url, url ∈ asked ↔ url ∈ remote) ∧ asked.Nodup ∧
      asked.Pairwise fun a b => remote.idxOf a < remote.idxOf b) ∧
    (ctx.probe = none → asked = [] ∧
      Rule.references.check ctx strict .empty =
        ⟨links.filterMap fun link => link.target.bind (missingMessage? ctx), []⟩) := by
  intro links remote asked
  have herrors : ∀ p ∈ Rule.references.problems ctx, p.isError = true := fun p hp =>
    isError_of_foundBy_references (foundBy_problems .references ctx p hp)
  have hasked : asked = firstOccurrences (probedAmong ctx (linkTargets ctx.root)) :=
    probedTargets_eq ctx
  have hcheck : Rule.references.check ctx strict .empty =
      ⟨links.filterMap fun link => link.target.bind fun url =>
        (missingMessage? ctx url).or (unreachedMessage? ctx url), []⟩ := by
    rw [Rule.check_of_isError herrors, ← List.filterMap_filterMap]
    exact congrArg (Findings.mk · []) (message_references ctx)
  refine ⟨hcheck, ?_, ?_⟩
  · intro hprobe
    have hremote : probedAmong ctx (linkTargets ctx.root) = remote := if_pos hprobe
    rw [hasked, hremote]
    exact ⟨fun _ => mem_firstOccurrences_iff, nodup_firstOccurrences remote,
      pairwise_idxOf_firstOccurrences remote⟩
  · intro hprobe
    have hsome : ¬ ctx.probe.isSome = true := by simp [hprobe]
    have hnone : probedAmong ctx (linkTargets ctx.root) = [] := if_neg hsome
    have hunreached : ∀ url, unreachedMessage? ctx url = none := by
      intro url
      simp [unreachedMessage?, hprobe]
    refine ⟨by rw [hasked, hnone]; rfl, ?_⟩
    simp only [hcheck, hunreached, Option.or_none]

end SopDocs.Lint
