import SopDocs.Proofs.Json.Record
import SopDocs.Review.Tracker

/-!
# What the tracker tells of issues

The body of a response tells of one issue or of a page of them. It is described by what it says and
not by how it is read: an entry is a record with a number, a title, an address and maybe something
about a pull request, or the list of these values. What else a record says is passed over, but it
says none of these four things twice.
-/

namespace SopDocs.Review.Tracker

open Json (Term Value Parts Blank RecordText RecordValue KeyedBy)

/-- What the members of an entry tell of it: a pull request is one of which anything but null is
said. -/
structure Tells (members : List (String × Term)) (item : Item) : Prop where
  number : ∃ n : Json.Numeral, ("number", .number n) ∈ members ∧
    n.IsUnsigned Json.maxUnsigned ∧ n.magnitude = item.issue.number
  title : ("title", .string item.issue.title) ∈ members
  url : ("html_url", .string item.issue.url) ∈ members
  pullRequest : item.isPullRequest = true ↔
    ∃ term, ("pull_request", term) ∈ members ∧ term ≠ .null

/-- The ways to write an entry whose terms meet a condition: a record, or the list of its values, of
which the last one may be left out. -/
inductive EntryText (p : Term → Prop) (item : Item) : List Char → Prop where
  | record {members : List (String × Term)} {t : List Char} (h : RecordText itemFields members t)
      (hterms : ∀ m ∈ members, p m.2) (htells : Tells members item) : EntryText p item t
  | list {items : List Term} {t : List Char} (h : (Term.array items).Written t)
      (hlength : items.length = 3 ∨ items.length = 4) (hterms : ∀ term ∈ items, p term)
      (htells : Tells (itemFields.zip items) item) : EntryText p item t

/-- A text that is a list of entries. -/
def PageBody (p : Term → Prop) (items : List Item) (body : String) : Prop :=
  ∃ v t w, Blank v ∧ Parts ']' (EntryText p) true items t ∧ Blank w ∧
    body.toList = v ++ '[' :: (t ++ w)

variable {p : Term → Prop} {item : Item} {items : List Item} {body : String}
  {members : List (String × Term)} {vs : List (String × Value)} {values : List Value} {v : Value}
  {size depth : Nat} {t : List Char}

/-! ### Members and their values -/

theorem marksPullRequest_eq_true_iff {v? : Option Value} :
    marksPullRequest v? = true ↔ ∃ v, v? = some v ∧ v ≠ .null := by
  unfold marksPullRequest
  split <;> simp_all

theorem itemOfFields?_eq_some_iff {number title url pullRequest : Option Value} :
    itemOfFields? number title url pullRequest = some item ↔
      number = some (.int item.issue.number) ∧ title = some (.string item.issue.title) ∧
        url = some (.string item.issue.url) ∧
        marksPullRequest pullRequest = item.isPullRequest := by
  unfold itemOfFields?
  constructor
  · intro h
    split at h
    · split at h
      · next hn =>
        obtain rfl := Option.some.inj h
        exact ⟨by rw [Int.toNat_of_nonneg hn], rfl, rfl, rfl⟩
      · cases h
    · cases h
  · rintro ⟨rfl, rfl, rfl, hmarks⟩
    simp [hmarks]

/-- An object is an item exactly if the members that it stands for tell of the item. -/
theorem itemOf?_object (hvs : List.Forall₂ (KeyedBy Term.Stands) members vs)
    (hkeys : (members.map (·.1)).Nodup) :
    itemOf? (.object (Sorted.ofList vs)) = some item ↔ Tells members item := by
  have hget : ∀ {key : String} {v : Value},
      Sorted.get? key (Sorted.ofList vs) = some v ↔ (key, v) ∈ vs :=
    Sorted.get?_ofList_of_nodup ((Json.map_key_eq hvs).symm ▸ hkeys)
  have hpull : marksPullRequest (Sorted.get? "pull_request" (Sorted.ofList vs)) = true ↔
      ∃ term, ("pull_request", term) ∈ members ∧ term ≠ .null := by
    rw [marksPullRequest_eq_true_iff]
    constructor
    · rintro ⟨v, hv, hnull⟩
      obtain ⟨term, hstands, hterm⟩ := Json.exists_member_of_mem hvs (hget.mp hv)
      exact ⟨term, hterm, fun h => hnull ((Json.eq_null_iff_of_stands hstands).mpr h)⟩
    · rintro ⟨term, hterm, hnull⟩
      obtain ⟨v, hstands, hv⟩ := Json.exists_mem_of_member hvs hterm
      exact ⟨v, hget.mpr hv, fun h => hnull ((Json.eq_null_iff_of_stands hstands).mp h)⟩
  show itemOfFields? _ _ _ _ = some item ↔ _
  rw [itemOfFields?_eq_some_iff, hget, hget, hget, Json.mem_unsigned_iff hvs,
    Json.mem_string_iff hvs, Json.mem_string_iff hvs, Bool.eq_iff_iff, hpull]
  exact ⟨fun ⟨h₁, h₂, h₃, h₄⟩ => ⟨h₁, h₂, h₃, h₄.symm⟩,
    fun ⟨h₁, h₂, h₃, h₄⟩ => ⟨h₁, h₂, h₃, h₄.symm⟩⟩

/-- A list is read as if its values had the names of the fields. -/
theorem itemOf?_array_eq (hlength : values.length = 3 ∨ values.length = 4) :
    itemOf? (.array values) = itemOf? (.object (Sorted.ofList (itemFields.zip values))) := by
  rcases hlength with hlength | hlength
  · obtain ⟨a, b, c, rfl⟩ := List.length_eq_three.mp hlength
    simp [itemOf?, itemFields, Sorted.ofList, Sorted.get?_put]
  · obtain ⟨a, rest, rfl⟩ := List.exists_cons_of_length_eq_add_one hlength
    obtain ⟨b, c, d, rfl⟩ := List.length_eq_three.mp (Nat.succ.inj hlength)
    simp [itemOf?, itemFields, Sorted.ofList, Sorted.get?_put]

theorem keyedBy_zip (keys : List String) {terms : List Term}
    (h : List.Forall₂ Term.Stands terms values) :
    List.Forall₂ (KeyedBy Term.Stands) (keys.zip terms) (keys.zip values) := by
  induction h generalizing keys with
  | nil => cases keys <;> exact .nil
  | cons hstands _ ih =>
    cases keys with
    | nil => exact .nil
    | cons key keys => exact .cons (.mk hstands) (ih keys)

theorem nodup_keys_zip {α : Type} {keys : List String} (h : keys.Nodup) (values : List α) :
    ((keys.zip values).map (·.1)).Nodup := by
  rw [List.zip_eq_zip_take_min]
  change (List.map Prod.fst _).Nodup
  rw [List.map_fst_zip (by simp)]
  exact h.sublist (List.take_sublist _ _)

/-- A list is an item exactly if its values, taken for members in their order, tell of it. -/
theorem itemOf?_array {terms : List Term}
    (hlength : terms.length = 3 ∨ terms.length = 4)
    (hvalues : List.Forall₂ Term.Stands terms values) :
    itemOf? (.array values) = some item ↔ Tells (itemFields.zip terms) item := by
  rw [itemOf?_array_eq (hvalues.length_eq ▸ hlength)]
  exact itemOf?_object (keyedBy_zip itemFields hvalues) (nodup_keys_zip (by decide) terms)

/-- Only lists with or without something about a pull request are items. -/
theorem length_of_itemOf?_array (h : itemOf? (.array values) = some item) :
    values.length = 3 ∨ values.length = 4 := by
  unfold itemOf? at h
  split at h
  · next heq => cases heq
  · next heq =>
    cases heq
    exact .inl rfl
  · next heq =>
    cases heq
    exact .inr rfl
  · cases h

/-! ### Entries -/

/-- What is taken for an item is written as an entry. -/
theorem entryText_of_recordValue (h : RecordValue itemFields v t) (hitem : itemOf? v = some item) :
    EntryText (fun _ => True) item t := by
  cases h with
  | record hrecord hvs =>
    cases hrecord with
    | mk hparts hkeys =>
      exact .record (.mk hparts hkeys) (fun _ _ => trivial) ((itemOf?_object hvs hkeys).mp hitem)
  | @other term v t hwritten hterm hstands =>
    cases hstands with
    | object _ => exact absurd rfl (hterm _)
    | @array terms values hvalues =>
      have hlength := length_of_itemOf?_array hitem
      rw [← hvalues.length_eq] at hlength
      exact .list hwritten hlength (fun _ _ => trivial) ((itemOf?_array hlength hvalues).mp hitem)
    | number hn => rcases hn.isInt_or_isFloat with ⟨z, -, rfl⟩ | ⟨-, x, rfl⟩ <;> cases hitem
    | _ => cases hitem

/-- **An entry is read wherever it stands, if what it tells can be read.** -/
theorem readRecord_of_entryText (h : EntryText (Term.Readable depth) item t) (hdepth : depth ≠ 0)
    (hsize : t.length < size) :
    ∃ v, itemOf? v = some item ∧ ∀ {w r : List Char}, Blank w → Json.Ends r →
      Json.readRecord itemFields size (depth + 1) (w ++ (t ++ r)) = .ok (v, r) := by
  cases h with
  | record hrecord hterms htells =>
    obtain ⟨vs, hvs, hread⟩ := Json.readRecord_of_recordText hrecord hdepth hterms hsize
    cases hrecord with
    | mk hparts hkeys =>
      exact ⟨_, (itemOf?_object hvs hkeys).mpr htells, fun hw _ => hread hw⟩
  | @list terms t hwritten hlength hterms htells =>
    have hreadable : Term.Readable (depth + 1) (.array terms) := ⟨hdepth, hterms⟩
    obtain ⟨values, hvalues, hread⟩ := Json.readRecord_of_array hwritten hreadable hsize
    exact ⟨_, (itemOf?_array hlength hvalues).mpr htells, hread⟩

theorem exists_cons_of_entryText (h : EntryText p item t) :
    ∃ c rest, t = c :: rest ∧ Json.isSpace c = false ∧ c ≠ ']' := by
  cases h with
  | record hrecord _ _ =>
    cases hrecord
    exact ⟨_, _, rfl, by decide, by decide⟩
  | list hwritten _ _ _ => exact Json.exists_cons_of_written hwritten

/-! ### Bodies -/

theorem mapM_itemOf?_eq_some_iff : values.mapM itemOf? = some items ↔
    List.Forall₂ (fun v item => itemOf? v = some item) values items := by
  induction values generalizing items with
  | nil => simp [eq_comm]
  | cons v values ih =>
    rw [List.mapM_cons, List.forall₂_cons_left_iff]
    simp only [← ih]
    cases itemOf? v <;> cases values.mapM itemOf? <;> simp [eq_comm]

theorem readItems?_eq_some_iff : readItems? body = some items ↔
    ∃ vs, Json.readWhole (Json.readRecords itemFields · Json.standardDepth) body.toList = .ok vs ∧
      vs.mapM itemOf? = some items := by
  unfold readItems?
  cases Json.readWhole (Json.readRecords itemFields · Json.standardDepth) body.toList <;>
    simp [Except.toOption]

-- A repeated title is no entry, while other members may come again.
example :
    readItem? "\x7b\"number\":1,\"title\":\"t\",\"title\":\"t\",\"html_url\":\"u\"\x7d" = none := by
  decide +kernel

example :
    readItem? "\x7b\"id\":1,\"id\":1e999,\"number\":1,\"title\":\"t\",\"html_url\":\"u\"\x7d" =
      some ⟨⟨1, "t", "u"⟩, false⟩ := by
  decide +kernel

/-- **A body that is read as a list of entries is one.** -/
theorem pageBody_of_readItems? (h : readItems? body = some items) :
    PageBody (fun _ => True) items body := by
  obtain ⟨vs, hread, hitems⟩ := readItems?_eq_some_iff.mp h
  obtain ⟨space, hspace, hrecords⟩ := Json.readWhole_eq_ok_iff.mp hread
  obtain ⟨w, t, hw, hparts, htext⟩ := Json.parts_of_readRecords hrecords
  have hentries := hparts.of_forall₂ (mapM_itemOf?_eq_some_iff.mp hitems)
    fun hitem hvalue => entryText_of_recordValue hvalue hitem
  exact ⟨w, t, space, hw, hentries, hspace, htext⟩

/-- **A body that is a list of entries is read, if what they tell can be read.** -/
theorem readItems?_of_pageBody (h : PageBody (Term.Readable 126) items body) :
    readItems? body = some items := by
  obtain ⟨w, t, space, hw, hentries, hspace, htext⟩ := h
  have hsize : t.length < body.toList.length + 1 := by
    rw [htext, List.length_append, List.length_cons, List.length_append]
    omega
  obtain ⟨vs, hvs, hparts⟩ := hentries.exists_forall₂
    (R := fun item v => itemOf? v = some item)
    (q := Json.ReadAs (Json.readRecord itemFields (body.toList.length + 1) 127))
    fun item _ s hs hentry => by
      obtain ⟨v, hitem, hread⟩ := readRecord_of_entryText hentry (by decide) (hs.trans hsize)
      exact ⟨v, hitem, exists_cons_of_entryText hentry, fun hr => hread Json.blank_nil hr⟩
  have hwhole := Json.readRecords_of_parts hparts (by decide) hsize hw space
  rw [← htext] at hwhole
  exact readItems?_eq_some_iff.mpr ⟨vs, Json.readWhole_eq_ok_iff.mpr ⟨space, hspace, hwhole⟩,
    mapM_itemOf?_eq_some_iff.mpr hvs.flip⟩

/-! ### Responses -/

section Responses

variable {α : Type} {read : String → Option α} {transport : Web.Transport} {request : Web.Request}
  {response : Web.Response} {a : α}

/-- What a response comes to: it is refused unless it is a success, and it needs a body that is
read. -/
def reply (read : String → Option α) (address : Web.Url) (response : Web.Response) :
    Except TrackerFault α :=
  if Web.isSuccess response.status then
    match read response.body with
    | some a => .ok a
    | none => .error (.unexpectedContent address)
  else .error (.refused response.status address)

/-- What is asked for is what the response to the request comes to, if there is one. -/
theorem ask_eq (transport : Web.Transport) (request : Web.Request) (read : String → Option α) :
    ask transport request read =
      ⟨(Web.send transport request).requests,
        match (Web.send transport request).result with
        | .error fault => .error (.network fault)
        | .ok response => reply read request.url response⟩ := by
  unfold ask Web.Exchange.map
  cases (Web.send transport request).result <;> rfl

end Responses

/-! ### A tracker and the text of an entry -/

def sopsTracker : Tracker := ⟨"http://t", "org", "sops", "secret"⟩

def sopsUrl : Web.Url :=
  ⟨.http, [], "t".toList, none, "/repos/org/sops/issues".toList, none, none⟩

theorem issuesUrl_sopsTracker : sopsTracker.issuesUrl = .ok sopsUrl := by decide +kernel

/-- A number of one digit that is not zero. -/
def digitNumeral (digit : Char) (h : digit.isDigit = true ∧ digit ≠ '0') : Json.Numeral :=
  .ofDigits [digit] ⟨List.cons_ne_nil _ _, by simp [h.1]⟩ fun _ heq =>
    absurd (List.cons.inj heq).1 h.2

theorem isUnsigned_digitNumeral {digit : Char} (h : digit.isDigit = true ∧ digit ≠ '0') :
    (digitNumeral digit h).IsUnsigned Json.maxUnsigned := by
  have hvalue : digit.toNat - '0'.toNat ≤ 9 := Json.digitValue_le h.1
  exact ⟨rfl, rfl, rfl, (Nat.zero_add _).trans_le (hvalue.trans (by decide))⟩

/-- Half of a surrogate pair, which is no text but can be passed over. -/
theorem loose_surrogate : Json.Loose "\"\\ud800\"".toList := by
  have hdigits : Json.HexDigits 0xD800 ['d', '8', '0', '0'] :=
    @Json.HexDigits.mk 13 8 0 0 'd' '8' '0' '0' (.inl rfl) (.inl rfl) (.inl rfl) (.inl rfl)
  exact .string (.unit hdigits .nil)

/-- A member without white space in it. -/
def plainMember (key : String) (value : List Char) : List Char :=
  '"' :: (key.toList ++ '"' :: ':' :: value)

def quoted (text : String) : List Char := '"' :: (text.toList ++ ['"'])

/-- An entry that says more than is read of it. -/
def plainEntry (digit : Char) (pull : Bool) : List Char :=
  '\x7b' :: (plainMember "id" "\"\\ud800\"".toList ++ (',' :: (plainMember "number" [digit] ++
    (',' :: (plainMember "title" (quoted "t") ++ (',' :: (plainMember "html_url" (quoted "u") ++
      if pull then ',' :: (plainMember "pull_request" "\x7b\x7d".toList ++ ['\x7d'])
      else ['\x7d'])))))))

example : String.ofList (plainEntry '9' false) =
    "\x7b\"id\":\"\\ud800\",\"number\":9,\"title\":\"t\",\"html_url\":\"u\"\x7d" := rfl

/-- The members of such an entry; the first one is passed over. -/
def plainMembers (digit : Char) (h : digit.isDigit = true ∧ digit ≠ '0') (pull : Bool) :
    List (Option (String × Term)) :=
  none :: some ("number", .number (digitNumeral digit h)) :: some ("title", .string "t") ::
    some ("html_url", .string "u") ::
      if pull then [some ("pull_request", .object [])] else []

theorem recordMember_plain {key : String} {term : Term} {s : List Char} (hkey : key ∈ itemFields)
    (hplain : key.toList.all Json.isPlain = true) (h : term.Written s) :
    Json.RecordMember itemFields (some (key, term)) (plainMember key s) :=
  .field hkey (.mk (Json.writtenText_toList key hplain) Json.blank_nil Json.blank_nil h)

theorem written_quoted {text : String} (h : text.toList.all Json.isPlain = true) :
    (Term.string text).Written (quoted text) :=
  .string (Json.writtenText_toList text h)

theorem parts_plainEntry (digit : Char) (h : digit.isDigit = true ∧ digit ≠ '0') (pull : Bool) :
    Parts '\x7d' (Json.RecordMember itemFields) true (plainMembers digit h pull)
      ((plainEntry digit pull).drop 1) := by
  have hlead : Json.Lead false [','] := .later Json.blank_nil Json.blank_nil
  have hid : Json.RecordMember itemFields none (plainMember "id" "\"\\ud800\"".toList) :=
    .other (show "id" ∉ itemFields by decide) (.mk (Json.writtenText_toList "id" (by decide))
      Json.blank_nil Json.blank_nil loose_surrogate)
  have hnumber : Json.RecordMember itemFields (some ("number", .number (digitNumeral digit h)))
      (plainMember "number" [digit]) := recordMember_plain (by decide) (by decide) (.number _)
  have htitle : Json.RecordMember itemFields (some ("title", .string "t"))
      (plainMember "title" (quoted "t")) :=
    recordMember_plain (by decide) (by decide) (written_quoted (by decide))
  have hurl : Json.RecordMember itemFields (some ("html_url", .string "u"))
      (plainMember "html_url" (quoted "u")) :=
    recordMember_plain (by decide) (by decide) (written_quoted (by decide))
  have hpull : Json.RecordMember itemFields (some ("pull_request", .object []))
      (plainMember "pull_request" "\x7b\x7d".toList) :=
    recordMember_plain (by decide) (by decide) (.object (.close Json.blank_nil))
  refine .part (.first Json.blank_nil) hid (.part hlead hnumber (.part hlead htitle
    (.part hlead hurl ?_)))
  cases pull with
  | false => exact .close Json.blank_nil
  | true => exact .part hlead hpull (.close Json.blank_nil)

theorem entryText_plainEntry (depth : Nat) (digit : Char) (h : digit.isDigit = true ∧ digit ≠ '0')
    (pull : Bool) : EntryText (Term.Readable (depth + 2))
      ⟨⟨(digitNumeral digit h).magnitude, "t", "u"⟩, pull⟩ (plainEntry digit pull) := by
  have hfits := isUnsigned_digitNumeral h
  refine .record (.mk (parts_plainEntry digit h pull) ?_) ?_ ⟨⟨_, ?_, hfits, rfl⟩, ?_, ?_, ?_⟩
  all_goals
    cases pull <;> simp [plainMembers, List.reduceOption, Term.Readable, hfits]

end SopDocs.Review.Tracker
