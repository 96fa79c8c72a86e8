import SopDocs.Proofs.Config.Acceptance
import SopDocs.Proofs.Json.Unique

/-!
# A text is a configuration if the schema allows what it says

Reading takes three steps that know nothing of each other: the text is read as JSON, the value is
checked against the schema, and its members are taken over. Here they are put together for texts
that do not say a key twice, where the members of the value are those of the text in another order.
-/

namespace SopDocs.Config

open Json (Value Term Says KeyedBy map_key_eq exists_mem_of_member exists_member_of_mem)

variable {config next : Config} {key text : String} {shape : Shape} {v : Value} {term : Term}
  {members : List (String × Term)} {vs : List (String × Value)}

/-! ### Members of an object -/

/-- Whether all members of an object have known keys and terms that are allowed and fit. -/
def Accepted (members : List (String × Term)) : Prop :=
  ∀ m ∈ members, ∃ shape, (m.1, shape) ∈ schema ∧ shape.Allows m.2 ∧ Fits m.1 m.2

theorem accepted_members_iff :
    Satisfies (.object members) ∧ NumbersFit (.object members) ↔ Accepted members := by
  constructor
  · rintro ⟨⟨_, ⟨⟩, hallows⟩, hfits⟩ m hm
    obtain ⟨shape, hkey, hshape⟩ := hallows m hm
    exact ⟨shape, hkey, hshape, hfits members rfl m hm⟩
  · intro h
    refine ⟨⟨members, rfl, fun m hm => ?_⟩, ?_⟩
    · obtain ⟨shape, hkey, hshape, -⟩ := h m hm
      exact ⟨shape, hkey, hshape⟩
    · rintro _ ⟨⟩ m hm
      obtain ⟨shape, -, -, hfits⟩ := h m hm
      exact hfits

theorem ascending_schema : Sorted.Ascending schema := by
  unfold Sorted.Ascending
  decide

theorem memberViolation?_eq_none_iff :
    memberViolation? key v = none ↔
      ∃ shape, (key, shape) ∈ schema ∧ shape.violation? ("/" ++ key) v = none := by
  simp only [Sorted.mem_iff_get? ascending_schema, memberViolation?]
  cases Sorted.get? key schema <;> simp

/-- A member has no violation and is taken over exactly if its key is known and its term is allowed
and fits. -/
theorem accepted_member_iff (h : term.Stands v) :
    (memberViolation? key v = none ∧ ∃ next, config.set key v = .ok next) ↔
      ∃ shape, (key, shape) ∈ schema ∧ shape.Allows term ∧ Fits key term := by
  rw [memberViolation?_eq_none_iff]
  constructor
  · rintro ⟨⟨shape, hkey, hviolation⟩, hset⟩
    exact ⟨shape, hkey, (accepted_iff h hkey).mp ⟨hviolation, hset⟩⟩
  · rintro ⟨shape, hkey, haccepted⟩
    obtain ⟨hviolation, hset⟩ := (accepted_iff h hkey).mpr haccepted
    exact ⟨⟨shape, hkey, hviolation⟩, hset⟩

/-! ### From the text to the settings -/

theorem read_eq_ok_iff :
    read text = .ok config ↔
      ∃ v, Json.parse text = .ok v ∧ violation? v = none ∧ ofJson v = .ok config := by
  unfold read
  cases hparse : Json.parse text with
  | error detail => simp
  | ok v =>
    cases hviolation : violation? v with
    | some p => simp [hviolation]
    | none => cases hsettings : ofJson v <;> simp [hviolation, hsettings]

/-- **Every failure to read a configuration is one of the configuration.** -/
theorem kind_of_read_eq_error {failure : Failure} (h : read text = .error failure) :
    failure.kind = .config := by
  unfold read at h
  split at h
  · obtain rfl := Except.error.inj h
    rfl
  · split at h
    · obtain rfl := Except.error.inj h
      rfl
    · split at h
      · cases h
      · obtain rfl := Except.error.inj h
        rfl

/-- An object whose members are accepted is taken over, and no other one is. -/
theorem exists_read_iff (hparse : Json.parse text = .ok (.object (Sorted.ofList vs)))
    (hkeyed : List.Forall₂ (KeyedBy Term.Stands) members vs)
    (hkeys : (members.map (·.1)).Nodup) :
    (∃ config, read text = .ok config) ↔ Accepted members := by
  have hnodup : (vs.map (·.1)).Nodup := (map_key_eq hkeyed).symm ▸ hkeys
  have hread : ∀ config, read text = .ok config ↔
      (∀ p ∈ vs, memberViolation? p.1 p.2 = none) ∧
        standard.setAll (Sorted.ofList vs) = .ok config := by
    intro config
    rw [read_eq_ok_iff, hparse]
    simp [violation?, ofJson, List.findSome?_eq_none_iff, Sorted.mem_ofList_of_nodup hnodup]
  constructor
  · rintro ⟨config, hconfig⟩ m hm
    obtain ⟨hviolation, hsettings⟩ := (hread config).mp hconfig
    obtain ⟨v, hstands, hv⟩ := exists_mem_of_member hkeyed hm
    obtain ⟨before, after, hset⟩ :=
      exists_set_of_setAll hsettings ((Sorted.mem_ofList_of_nodup hnodup).mpr hv)
    exact (accepted_member_iff hstands).mp ⟨hviolation _ hv, after, hset⟩
  · intro haccepted
    have hmember : ∀ p ∈ vs, ∀ config : Config,
        memberViolation? p.1 p.2 = none ∧ ∃ next, config.set p.1 p.2 = .ok next := by
      intro p hp config
      obtain ⟨term, hstands, hterm⟩ := exists_member_of_mem hkeyed hp
      exact (accepted_member_iff hstands).mpr (haccepted _ hterm)
    obtain ⟨config, hconfig⟩ := exists_setAll (fun p hp config =>
      (hmember p ((Sorted.mem_ofList_of_nodup hnodup).mp hp) config).2) standard
    exact ⟨config, (hread config).mpr ⟨fun p hp => (hmember p hp standard).1, hconfig⟩⟩

/-! ### Texts that say an allowed object -/

theorem readable_of_allows (depth : Nat) (hkey : (key, shape) ∈ schema)
    (hallows : shape.Allows term) (hfits : Fits key term) : Term.Readable (depth + 2) term := by
  have htext : ∀ {nonEmpty : Bool} {depth : Nat} {term : Term}, IsText nonEmpty term →
      Term.Readable (depth + 1) term := by
    rintro nonEmpty depth _ ⟨s, rfl, -⟩
    trivial
  cases shape with
  | text | someText => exact htext hallows
  | repositoryName =>
    obtain ⟨owner, name, rfl, -⟩ := hallows
    trivial
  | flag =>
    obtain ⟨b, rfl⟩ := hallows
    trivial
  | whole minimum =>
    obtain ⟨n, z, rfl, -⟩ := hallows
    exact isUnsigned_of_fits hkey hfits
  | texts | someTexts =>
    obtain ⟨items, rfl, hitems⟩ := hallows
    exact ⟨Nat.succ_ne_zero depth, fun item hitem => htext (hitems item hitem)⟩

/-- The value of a term that is allowed and fits is determined. -/
theorem eq_of_stands {v w : Value} (hkey : (key, shape) ∈ schema) (hallows : shape.Allows term)
    (hfits : Fits key term) (hv : term.Stands v) (hw : term.Stands w) : v = w := by
  have htexts : ∀ {nonEmpty : Bool} {items : List Term} {vs ws : List Value},
      List.Forall₂ Term.Stands items vs → List.Forall₂ Term.Stands items ws →
      (∀ item ∈ items, IsText nonEmpty item) → vs = ws := by
    intro nonEmpty items vs ws hvs hws hitems
    induction hvs generalizing ws with
    | nil => cases hws; rfl
    | cons hitem hrest ih =>
      cases hws with
      | cons hitem' hrest' =>
        obtain ⟨⟨s, rfl, -⟩, htail⟩ := List.forall_mem_cons.mp hitems
        cases hitem
        cases hitem'
        rw [ih hrest' htail]
  have hlist : ∀ {nonEmpty : Bool} {items : List Term}, term = .array items →
      (∀ item ∈ items, IsText nonEmpty item) → v = w := by
    rintro nonEmpty items rfl hitems
    cases hv with
    | array hvs =>
      cases hw with
      | array hws => rw [htexts hvs hws hitems]
  cases shape with
  | text | someText =>
    obtain ⟨s, rfl, -⟩ := hallows
    cases hv
    cases hw
    rfl
  | repositoryName =>
    obtain ⟨owner, name, rfl, -⟩ := hallows
    cases hv
    cases hw
    rfl
  | flag =>
    obtain ⟨b, rfl⟩ := hallows
    cases hv
    cases hw
    rfl
  | whole minimum =>
    obtain ⟨n, z, rfl, -⟩ := hallows
    have hinteger := Json.Numeral.integer?_of_isUnsigned (isUnsigned_of_fits hkey hfits)
    have hint : ∀ {v : Value}, Term.Stands (.number n) v → v = .int n.magnitude := by
      intro v hv
      cases hv with
      | number hnumber =>
        rw [hinteger] at hnumber
        exact hnumber.eq_int
    rw [hint hv, hint hw]
  | texts | someTexts =>
    obtain ⟨items, hterm, hitems⟩ := hallows
    exact hlist hterm hitems

/-- **An allowed object is read, wherever its text comes from.** -/
theorem parse_of_accepted (hsaid : Says text (.object members)) (haccepted : Accepted members) :
    ∃ vs, List.Forall₂ (KeyedBy Term.Stands) members vs ∧
      Json.parse text = .ok (.object (Sorted.ofList vs)) := by
  have hreadable : Term.Readable Json.standardDepth (.object members) := by
    refine ⟨Nat.succ_ne_zero 126, fun m hm => ?_⟩
    obtain ⟨shape, hkey, hallows, hfits⟩ := haccepted m hm
    exact readable_of_allows 125 hkey hallows hfits
  obtain ⟨v, hparse, hstands⟩ := Json.exists_parse hsaid hreadable
  cases hstands with
  | object hkeyed => exact ⟨_, hkeyed, hparse⟩

/-! ### Members that are no setting -/

/-- The members of an object without the one that names a schema. -/
def settingsOf (members : List (String × Term)) : List (String × Term) :=
  members.filter fun m => m.1 != "$schema"

theorem setAll_filter_schema (config : Config) (pairs : List (String × Value)) :
    config.setAll (pairs.filter fun p => p.1 != "$schema") = config.setAll pairs := by
  induction pairs generalizing config with
  | nil => rfl
  | cons p pairs ih =>
    by_cases hp : p.1 = "$schema"
    · rw [List.filter_cons_of_neg (by simp [hp]), ih, setAll, hp]
      rfl
    · rw [List.filter_cons_of_pos (by simp [hp]), setAll, setAll]
      exact bind_congr fun next => ih next

theorem ofList_filter (keep : String → Bool) (hkeys : (vs.map (·.1)).Nodup) :
    Sorted.ofList (vs.filter fun p => keep p.1) =
      (Sorted.ofList vs).filter fun p => keep p.1 := by
  have hfilter : ((vs.filter fun p => keep p.1).map (·.1)).Nodup :=
    hkeys.sublist (List.filter_sublist.map _)
  have hascending := (Sorted.ascending_ofList vs).filter fun p => keep p.1
  refine Sorted.eq_of_get? (Sorted.ascending_ofList _) hascending fun key => ?_
  refine Option.ext fun v => ?_
  rw [Sorted.get?_ofList_of_nodup hfilter, ← Sorted.mem_iff_get? (p := (key, v)) hascending,
    List.mem_filter, List.mem_filter, Sorted.mem_ofList_of_nodup hkeys]

theorem eq_filter_of_stands {ws : List (String × Value)} (haccepted : Accepted members)
    (hvs : List.Forall₂ (KeyedBy Term.Stands) members vs)
    (hws : List.Forall₂ (KeyedBy Term.Stands) (settingsOf members) ws) :
    ws = vs.filter fun p => p.1 != "$schema" := by
  unfold settingsOf at hws
  induction hvs generalizing ws with
  | nil => cases hws; rfl
  | @cons m p members vs hkeyed hrest ih =>
    obtain ⟨⟨shape, hkey, hallows, hfits⟩, htail⟩ := List.forall_mem_cons.mp haccepted
    cases hkeyed with
    | @mk key term v hstands =>
      by_cases hschema : key = "$schema"
      · rw [List.filter_cons_of_neg (by simp [hschema])] at hws
        rw [List.filter_cons_of_neg (by simp [hschema])]
        exact ih htail hws
      · rw [List.filter_cons_of_pos (by simp [hschema])] at hws
        rw [List.filter_cons_of_pos (by simp [hschema])]
        cases hws with
        | cons hkeyed' hrest' =>
          cases hkeyed' with
          | mk hstands' =>
            rw [ih htail hrest', eq_of_stands hkey hallows hfits hstands hstands']

theorem setAll_of_read (hparse : Json.parse text = .ok (.object (Sorted.ofList vs)))
    (h : read text = .ok config) : standard.setAll (Sorted.ofList vs) = .ok config := by
  obtain ⟨v, hv, -, hsettings⟩ := read_eq_ok_iff.mp h
  obtain rfl := Except.ok.inj (hparse.symm.trans hv)
  exact hsettings

/-- **The name of a schema changes nothing.** -/
theorem read_settingsOf {bare : String} (hsaid : Says text (.object members))
    (hbare : Says bare (.object (settingsOf members))) (hkeys : (members.map (·.1)).Nodup)
    (haccepted : Accepted members) (h : read text = .ok config) : read bare = .ok config := by
  have hfilter : List.Sublist (settingsOf members) members := List.filter_sublist
  have hsettings : Accepted (settingsOf members) := fun m hm => haccepted m (hfilter.subset hm)
  obtain ⟨vs, hvs, hparse⟩ := parse_of_accepted hsaid haccepted
  obtain ⟨ws, hws, hparse'⟩ := parse_of_accepted hbare hsettings
  obtain ⟨config', h'⟩ :=
    (exists_read_iff hparse' hws (hkeys.sublist (hfilter.map _))).mpr hsettings
  have hnodup : (vs.map (·.1)).Nodup := (map_key_eq hvs).symm ▸ hkeys
  have hread := setAll_of_read hparse' h'
  rw [eq_filter_of_stands haccepted hvs hws, ofList_filter (fun key => key != "$schema") hnodup,
    setAll_filter_schema, setAll_of_read hparse h] at hread
  rw [h', Except.ok.inj hread]

/-! ### The repository -/

/-- **A repository that the schema allows is one of a tracker.** -/
theorem ofRepository_of_isPart {owner name : String} (howner : IsPart owner)
    (hname : IsPart name) (base token : String) :
    Review.Tracker.ofRepository base (owner ++ "/" ++ name) token =
      if token.toList.all Review.isHeaderChar then .ok ⟨base, owner, name, token⟩
      else .error .invalidToken := by
  have hcut : ∀ {part : String}, IsPart part →
      Text.pieces (· == '/') part.toList = [part.toList] := fun hpart =>
    Text.pieces_of_uncut fun c hc => by simpa using (hpart.2 c hc).1
  have hpieces : Text.pieces (· == '/') (owner ++ "/" ++ name).toList =
      [owner.toList, name.toList] := by
    have htext : (owner ++ "/" ++ name).toList = owner.toList ++ '/' :: name.toList := by simp
    rw [htext, Text.pieces_append_cut rfl, hcut howner, hcut hname]
    rfl
  have hsplit : Review.splitRepository? (owner ++ "/" ++ name) = some (owner, name) := by
    rw [Review.splitRepository?, hpieces]
    simp [howner.1, hname.1]
  rw [Review.Tracker.ofRepository, hsplit]

/-! ### Configurations -/

/-- Whether a configuration has the settings of an object, and the standard ones where the object
has none. -/
structure Gives (members : List (String × Term)) (config : Config) : Prop where
  given : ∀ m ∈ members, m.1 ≠ "$schema" →
    ∃ v, m.2.Stands v ∧ config.toJson.field? m.1 = some v
  standard : ∀ key ∉ members.map (·.1), config.toJson.field? key = standard.toJson.field? key
  baseDir : config.baseDir = none

theorem isSome_standard : ∀ p ∈ schema, p.1 ≠ "$schema" →
    (standard.toJson.field? p.1).isSome = true := by
  decide

/-- A configuration is read from an object with members that are accepted, and gives them. -/
theorem exists_members_of_read (hdistinct : ¬ ∃ term, Says text term ∧ term.RepeatsKey)
    (h : read text = .ok config) :
    ∃ members, Says text (.object members) ∧ (members.map (·.1)).Nodup ∧ Accepted members ∧
      Gives members config := by
  obtain ⟨v, hparse, hviolation, hsettings⟩ := read_eq_ok_iff.mp h
  obtain ⟨term, hsaid, hstands⟩ := Json.says_of_parse hparse
  cases hstands with
  | @object members vs hkeyed =>
    have hkeys : (members.map (·.1)).Nodup := by
      by_contra hrepeats
      exact hdistinct ⟨_, hsaid, .here hrepeats⟩
    have hnodup : (vs.map (·.1)).Nodup := (map_key_eq hkeyed).symm ▸ hkeys
    have haccepted := (exists_read_iff hparse hkeyed hkeys).mp ⟨config, h⟩
    obtain ⟨hbase, hgiven, hother⟩ :=
      field?_of_setAll (Sorted.nodup_keys (Sorted.ascending_ofList vs)) hsettings
    refine ⟨members, hsaid, hkeys, haccepted, ?_, ?_, hbase⟩
    · intro m hm hschema
      obtain ⟨v, hstands, hv⟩ := exists_mem_of_member hkeyed hm
      obtain ⟨shape, hkey, -⟩ := haccepted m hm
      obtain ⟨old, hold⟩ := Option.isSome_iff_exists.mp (isSome_standard _ hkey hschema)
      have hfield := hgiven _ ((Sorted.mem_ofList_of_nodup hnodup).mpr hv)
      exact ⟨v, hstands, by rw [hfield, hold]; rfl⟩
    · intro key hkey
      refine hother key fun hmem => hkey ?_
      obtain ⟨p, hp, rfl⟩ := List.mem_map.mp hmem
      rw [← map_key_eq hkeyed]
      exact List.mem_map_of_mem ((Sorted.mem_ofList_of_nodup hnodup).mp hp)
  | number hnumber =>
    rcases hnumber.isInt_or_isFloat with ⟨z, -, rfl⟩ | ⟨-, x, rfl⟩ <;> cases hviolation
  | _ => cases hviolation

/-- The repository that is given, or else the standard one, is an owner and a name. -/
theorem exists_isPart_of_gives (haccepted : Accepted members) (hgives : Gives members config) :
    ∃ owner name, config.repository = owner ++ "/" ++ name ∧ IsPart owner ∧ IsPart name := by
  have hfield : ∀ config : Config,
      config.toJson.field? "repository" = some (.string config.repository) := fun config => by
    simp [toJson, Value.field?, Sorted.get?_cons]
  by_cases hnamed : "repository" ∈ members.map (·.1)
  · obtain ⟨m, hm, hrepository⟩ := List.mem_map.mp hnamed
    obtain ⟨shape, hkey, hallows, -⟩ := haccepted m hm
    have hshape : shape = .repositoryName := by
      rw [hrepository] at hkey
      simpa [schema] using hkey
    subst hshape
    obtain ⟨owner, name, hterm, howner, hname⟩ := hallows
    obtain ⟨v, hstands, hv⟩ := hgives.given m hm (by rw [hrepository]; decide)
    rw [hrepository, hfield] at hv
    rw [hterm, ← Option.some.inj hv] at hstands
    generalize hs : Value.string config.repository = v at hstands
    cases hstands
    exact ⟨owner, name, Value.string.inj hs, howner, hname⟩
  · have hstandard := hgives.standard "repository" hnamed
    rw [hfield, hfield] at hstandard
    refine ⟨"GenomicDataInfrastructure", "standard-operating-procedures", ?_, ?_, ?_⟩
    · rw [Value.string.inj (Option.some.inj hstandard)]
      rfl
    · exact isRepositoryPart_iff.mp (by decide)
    · exact isRepositoryPart_iff.mp (by decide)

/-- **A text is a configuration exactly if the schema allows what it says and its numbers fit.** Of
an object with other members it is a failure of the configuration. The settings are those that are
given, and the standard ones where none is given; the name of a schema changes nothing, and the
repository is an owner and a name to the tracker, whatever its address and token are. -/
theorem read_exact (hdistinct : ¬ ∃ term, Says text term ∧ term.RepeatsKey) :
    ((∃ config, read text = .ok config) ↔
      ∃ term, Says text term ∧ Satisfies term ∧ NumbersFit term) ∧
    (∀ failure, read text = .error failure → failure.kind = .config) ∧
    ∀ config, read text = .ok config →
      (∃ members, Says text (.object members) ∧ Gives members config ∧
        ∀ bare, Says bare (.object (settingsOf members)) → read bare = .ok config) ∧
      ∃ owner name, config.repository = owner ++ "/" ++ name ∧
        ∀ base token, Review.Tracker.ofRepository base config.repository token =
          if token.toList.all Review.isHeaderChar then .ok ⟨base, owner, name, token⟩
          else .error .invalidToken := by
  refine ⟨⟨?_, ?_⟩, fun failure => kind_of_read_eq_error, fun config h => ⟨?_, ?_⟩⟩
  · rintro ⟨config, h⟩
    obtain ⟨members, hsaid, -, haccepted, -⟩ := exists_members_of_read hdistinct h
    exact ⟨.object members, hsaid, accepted_members_iff.mpr haccepted⟩
  · rintro ⟨term, hsaid, hsatisfies, hfits⟩
    obtain ⟨members, rfl, -⟩ := id hsatisfies
    have haccepted := accepted_members_iff.mp ⟨hsatisfies, hfits⟩
    have hkeys : (members.map (·.1)).Nodup := by
      by_contra hrepeats
      exact hdistinct ⟨_, hsaid, .here hrepeats⟩
    obtain ⟨vs, hkeyed, hparse⟩ := parse_of_accepted hsaid haccepted
    exact (exists_read_iff hparse hkeyed hkeys).mpr haccepted
  · obtain ⟨members, hsaid, hkeys, haccepted, hgives⟩ := exists_members_of_read hdistinct h
    exact ⟨members, hsaid, hgives, fun bare hbare =>
      read_settingsOf hsaid hbare hkeys haccepted h⟩
  · obtain ⟨members, -, -, haccepted, hgives⟩ := exists_members_of_read hdistinct h
    obtain ⟨owner, name, hrepository, howner, hname⟩ := exists_isPart_of_gives haccepted hgives
    refine ⟨owner, name, hrepository, fun base token => ?_⟩
    rw [hrepository]
    exact ofRepository_of_isPart howner hname base token

theorem digits_thirty : Json.Digits ['3', '0'] :=
  ⟨List.cons_ne_nil _ _, List.all_eq_true.mp (by decide)⟩

/-- A review after thirty days. -/
def monthly : Json.Numeral :=
  .ofDigits ['3', '0'] digits_thirty fun _ h => absurd (List.cons.inj h).1 (by decide)

/-- A configuration that names its schema and one setting. -/
def monthlyMembers : List (String × Term) :=
  [("$schema", .string "v1"), ("reviewDays", .number monthly)]

def monthlyText : String := "\x7b \"$schema\": \"v1\",\n \"reviewDays\": 30 \x7d"

theorem says_monthlyText : Says monthlyText (.object monthlyMembers) := by
  have hblank : Json.Blank [' '] := by simp [Json.Blank]
  have hline : Json.Blank ['\n', ' '] := by simp [Json.Blank]
  have hplain := Json.writtenText_toList
  refine ⟨[], monthlyText.toList, [], Json.blank_nil, ?_, Json.blank_nil, by simp⟩
  refine Term.Written.object (t := monthlyText.toList.drop 1) ?_
  exact .member (.first hblank) (hplain "$schema" (by decide)) Json.blank_nil hblank
    (.string (hplain "v1" (by decide))) (.member (.later Json.blank_nil hline)
      (hplain "reviewDays" (by decide)) Json.blank_nil hblank (.number monthly) (.close hblank))

theorem accepted_monthlyMembers : Accepted monthlyMembers := by
  have hdays : monthly.IsUnsigned (2 ^ 63 - 1) := ⟨rfl, rfl, rfl, by decide⟩
  have hvalue : monthly.value = ((30 : Int) : Rat) := by
    rw [Json.Numeral.value_of_isUnsigned hdays]
    rfl
  refine List.forall_mem_cons.mpr ⟨⟨.text, by decide, ⟨"v1", rfl, by simp⟩, by simp [Fits]⟩, ?_⟩
  refine List.forall_mem_cons.mpr ⟨⟨.whole 0, by decide, ⟨monthly, 30, rfl, hvalue, by decide⟩, ?_⟩,
    by simp⟩
  rintro _ ⟨⟩
  exact ⟨fun hkey => absurd hkey (by decide), fun _ => hdays⟩

theorem read_exact_monthlyText :
    ∃ config, read monthlyText = .ok config ∧
      config.toJson.field? "reviewDays" = some (.int 30) ∧
      config.toJson.field? "checkRemote" = some (.bool true) ∧
      ∃ owner name, config.repository = owner ++ "/" ++ name := by
  have hdistinct : ¬ ∃ term, Says monthlyText term ∧ term.RepeatsKey := by
    rintro ⟨term, hsaid, hrepeats⟩
    obtain rfl := Json.says_inj says_monthlyText hsaid
    cases hrepeats with
    | here hnot => exact hnot (by decide)
    | member hmem h =>
      simp only [monthlyMembers, List.mem_cons, List.not_mem_nil, or_false] at hmem
      rcases hmem with rfl | rfl <;> cases h
  obtain ⟨hiff, -, hgives⟩ := read_exact hdistinct
  obtain ⟨config, hconfig⟩ := hiff.mpr
    ⟨_, says_monthlyText, accepted_members_iff.mpr accepted_monthlyMembers⟩
  obtain ⟨⟨members, hsaid, hgives, -⟩, owner, name, hrepository, -⟩ := hgives config hconfig
  obtain ⟨⟩ := Json.says_inj says_monthlyText hsaid
  refine ⟨config, hconfig, ?_, ?_, owner, name, hrepository⟩
  · obtain ⟨v, hstands, hv⟩ := hgives.given ("reviewDays", .number monthly)
      (by simp [monthlyMembers]) (by decide)
    have hinteger : monthly.integer? = some 30 := by decide
    cases hstands with
    | number hnumber =>
      rw [hinteger] at hnumber
      obtain rfl := hnumber.eq_int
      exact hv
  · exact hgives.standard "checkRemote" (by decide)

end SopDocs.Config
