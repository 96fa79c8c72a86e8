import Mathlib.Data.List.Forall2
import SopDocs.Proofs.Json.Parts

/-!
# What a text says is what is read from it

A value that is read stands for a term that the text says. The other way round, a term is read if
it does not nest too deep and its numbers are written as whole numbers that fit 64 bits; which
other numbers are read depends on their size as floats and is left open.
-/

namespace SopDocs.Json

/-- A term and a value with the same key. -/
inductive KeyedBy (stands : Term → Value → Prop) : String × Term → String × Value → Prop where
  | mk {key : String} {term : Term} {v : Value} (h : stands term v) :
      KeyedBy stands (key, term) (key, v)

/-- Whether a value is what is kept of a term: of a key that comes again the last member, and of a
number the integer or that it is a float. -/
inductive Term.Stands : Term → Value → Prop where
  | null : Term.Stands .null .null
  | bool (b : Bool) : Term.Stands (.bool b) (.bool b)
  | number {n : Numeral} {v : Value} (h : IsNumber n.integer? v) : Term.Stands (.number n) v
  | string (text : String) : Term.Stands (.string text) (.string text)
  | array {items : List Term} {vs : List Value} (h : List.Forall₂ Term.Stands items vs) :
      Term.Stands (.array items) (.array vs)
  | object {members : List (String × Term)} {vs : List (String × Value)}
      (h : List.Forall₂ (KeyedBy Term.Stands) members vs) :
      Term.Stands (.object members) (.object (Sorted.ofList vs))

/-- Whether a text is white space, a term that stands for a value, and the rest. -/
def Starts (s : List Char) (v : Value) (r : List Char) : Prop :=
  ∃ w t term, Blank w ∧ Term.Written term t ∧ term.Stands v ∧ s = w ++ (t ++ r)

variable {item : List Char → Except Fault (Value × List Char)} {size fuel depth : Nat}
  {first : Bool} {s r t w : List Char} {v : Value} {term : Term}

/-! ### Members with their values -/

section Keyed

variable {members : List (String × Term)} {vs : List (String × Value)}

theorem map_key_eq (h : List.Forall₂ (KeyedBy Term.Stands) members vs) :
    vs.map (·.1) = members.map (·.1) := by
  induction h with
  | nil => rfl
  | cons hm hrest ih =>
    cases hm
    rw [List.map_cons, List.map_cons, ih]

theorem exists_mem_of_member (h : List.Forall₂ (KeyedBy Term.Stands) members vs)
    {m : String × Term} (hm : m ∈ members) : ∃ v, m.2.Stands v ∧ (m.1, v) ∈ vs := by
  induction h with
  | nil => cases hm
  | cons hkeyed hrest ih =>
    rcases List.mem_cons.mp hm with rfl | hm
    · cases hkeyed with
      | mk hstands => exact ⟨_, hstands, List.mem_cons_self⟩
    · obtain ⟨v, hstands, hv⟩ := ih hm
      exact ⟨v, hstands, List.mem_cons_of_mem _ hv⟩

theorem exists_member_of_mem (h : List.Forall₂ (KeyedBy Term.Stands) members vs)
    {p : String × Value} (hp : p ∈ vs) : ∃ term, term.Stands p.2 ∧ (p.1, term) ∈ members := by
  induction h with
  | nil => cases hp
  | cons hkeyed hrest ih =>
    rcases List.mem_cons.mp hp with rfl | hp
    · cases hkeyed with
      | mk hstands => exact ⟨_, hstands, List.mem_cons_self⟩
    · obtain ⟨term, hstands, hterm⟩ := ih hp
      exact ⟨term, hstands, List.mem_cons_of_mem _ hterm⟩

end Keyed

/-! ### Terms of a value -/

theorem isNumber_int_iff {z? : Option Int} {z : Int} : IsNumber z? (.int z) ↔ z? = some z :=
  ⟨fun h => by cases h; rfl, fun h => h ▸ .int z⟩

theorem stands_string_iff {text : String} : term.Stands (.string text) ↔ term = .string text := by
  constructor
  · intro h
    generalize hv : Value.string text = v at h
    cases h with
    | string _ => rw [Value.string.inj hv]
    | number hn => rcases hn.isInt_or_isFloat with ⟨z, -, rfl⟩ | ⟨-, x, rfl⟩ <;> cases hv
    | _ => cases hv
  · rintro rfl
    exact .string text

theorem stands_unsigned_iff {m : Nat} : term.Stands (.int m) ↔
    ∃ n : Numeral, term = .number n ∧ n.IsUnsigned maxUnsigned ∧ n.magnitude = m := by
  constructor
  · intro h
    generalize hv : Value.int m = v at h
    cases h with
    | @number n _ hn =>
      subst hv
      obtain ⟨hfits, hm⟩ :=
        Numeral.isUnsigned_of_integer? (isNumber_int_iff.mp hn) (Int.natCast_nonneg m)
      exact ⟨n, rfl, hfits, (Int.ofNat.inj hm).symm⟩
    | _ => cases hv
  · rintro ⟨n, rfl, hfits, rfl⟩
    exact .number (isNumber_int_iff.mpr (Numeral.integer?_of_isUnsigned hfits))

/-- Null stands for null only. -/
theorem eq_null_iff_of_stands (h : term.Stands v) : v = .null ↔ term = .null := by
  cases h with
  | number hn => rcases hn.isInt_or_isFloat with ⟨z, -, rfl⟩ | ⟨-, x, rfl⟩ <;> simp
  | _ => simp

theorem mem_string_iff {members : List (String × Term)} {vs : List (String × Value)}
    (h : List.Forall₂ (KeyedBy Term.Stands) members vs) {key text : String} :
    (key, Value.string text) ∈ vs ↔ (key, Term.string text) ∈ members := by
  constructor
  · intro hv
    obtain ⟨term, hstands, hterm⟩ := exists_member_of_mem h hv
    exact stands_string_iff.mp hstands ▸ hterm
  · intro hterm
    obtain ⟨v, hstands, hv⟩ := exists_mem_of_member h hterm
    cases hstands
    exact hv

theorem mem_unsigned_iff {members : List (String × Term)} {vs : List (String × Value)}
    (h : List.Forall₂ (KeyedBy Term.Stands) members vs) {key : String} {m : Nat} :
    (key, Value.int m) ∈ vs ↔ ∃ n : Numeral, (key, Term.number n) ∈ members ∧
      n.IsUnsigned maxUnsigned ∧ n.magnitude = m := by
  constructor
  · intro hv
    obtain ⟨term, hstands, hterm⟩ := exists_member_of_mem h hv
    obtain ⟨n, rfl, hn⟩ := stands_unsigned_iff.mp hstands
    exact ⟨n, hterm, hn⟩
  · rintro ⟨n, hterm, hfits, rfl⟩
    obtain ⟨v, hstands, hv⟩ := exists_mem_of_member h hterm
    cases hstands with
    | number hn =>
      rw [Numeral.integer?_of_isUnsigned hfits] at hn
      exact hn.eq_int ▸ hv

/-! ### Values that are read stand for terms -/

theorem eq_append_of_readLiteral {word : List Char} {value : Value}
    (h : readLiteral value word s = .ok (v, r)) : v = value ∧ s = word ++ r := by
  induction word generalizing s with
  | nil =>
    obtain ⟨rfl, rfl⟩ := Prod.mk.inj (Except.ok.inj h)
    exact ⟨rfl, rfl⟩
  | cons a word ih =>
    cases s with
    | nil => cases h
    | cons c s =>
      rw [readLiteral] at h
      split at h
      · next hac =>
        obtain ⟨hv, hs⟩ := ih h
        exact ⟨hv, by rw [hac, hs]; rfl⟩
      · cases h

/-- Items with commas between them are parts that are terms. -/
theorem parts_iff_writtenItems {items : List Term} :
    Parts ']' Term.Written first items t ↔ WrittenItems first items t := by
  constructor
  · intro h
    induction h with
    | close hw => exact .close hw
    | part hlead hpart _ ih => exact .item hlead hpart ih
  · intro h
    induction items generalizing first t with
    | nil =>
      cases h with
      | close hw => exact .close hw
    | cons term items ih =>
      cases h with
      | item hlead hterm hitems => exact .part hlead hterm (ih hitems)

/-- Members with commas between them are parts that are a key and a term. -/
theorem parts_iff_writtenMembers {members : List (String × Term)} :
    Parts '\x7d' (fun m => MemberText (WrittenText m.1.toList) m.2.Written) first members t ↔
      WrittenMembers first members t := by
  constructor
  · intro h
    induction h with
    | close hw => exact .close hw
    | part hlead hpart _ ih =>
      cases hpart with
      | mk hkey hv hw hvalue => simpa using WrittenMembers.member hlead hkey hv hw hvalue ih
  · intro h
    induction members generalizing first t with
    | nil =>
      cases h with
      | close hw => exact .close hw
    | cons m members ih =>
      cases h with
      | member hlead hkey hv hw hvalue hmembers =>
        simpa using Parts.part hlead (.mk hkey hv hw hvalue) (ih hmembers)

/-- A key, a colon and a value make a member. -/
theorem memberText_of_readString {key : String} {value : List Char → Prop}
    {behind u : List Char} (hkey : readString size [] s = .ok (key, behind))
    (hcolon : readColon behind = .ok (w ++ (u ++ r))) (hw : Blank w) (hvalue : value u) :
    ∃ t, MemberText (WrittenText key.toList) value ('"' :: t) ∧ s = t ++ r := by
  obtain ⟨k, hk, rfl⟩ := writtenText_of_readString hkey
  obtain ⟨gap, hgap, rfl⟩ := readColon_eq_ok_iff.mp hcolon
  exact ⟨_, .mk hk hgap hw hvalue, by simp⟩

/-- What is read as items is a way to write terms that they stand for. -/
theorem written_of_readItems (hitem : ∀ {s v r}, item s = .ok (v, r) → Starts s v r)
    {done vs : List Value} (h : readItems item fuel first done s = .ok (vs, r)) :
    ∃ items new t, WrittenItems first items t ∧ List.Forall₂ Term.Stands items new ∧
      vs = done.reverse ++ new ∧ s = t ++ r := by
  have hstarts : ∀ {s v r}, item s = .ok (v, r) → ∃ w t, Blank w ∧
      (∃ term, Term.Written term t ∧ term.Stands v) ∧ s = w ++ (t ++ r) := by
    intro s v r hv
    obtain ⟨w, t, term, hw, hterm, hstands, hs⟩ := hitem hv
    exact ⟨w, t, hw, ⟨term, hterm, hstands⟩, hs⟩
  obtain ⟨new, t, hparts, hvs, hs⟩ := parts_of_readItems
    (p := fun v t => ∃ term, Term.Written term t ∧ term.Stands v) hstarts h
  obtain ⟨items, hstands, hitems⟩ := hparts.exists_forall₂ (R := flip Term.Stands)
    (q := Term.Written) fun v _ _ _ hv => hv.imp fun _ hterm => hterm.symm
  exact ⟨items, new, t, parts_iff_writtenItems.mp hitems, hstands.flip, hvs, hs⟩

/-- What is read as members is a way to write terms that they stand for, put in order. -/
theorem written_of_readMembers (hitem : ∀ {s v r}, item s = .ok (v, r) → Starts s v r)
    {done vs : List (String × Value)}
    (h : readMembers (readMember item size) fuel first done s = .ok (vs, r)) :
    ∃ members new t, WrittenMembers first members t ∧
      List.Forall₂ (KeyedBy Term.Stands) members new ∧
      vs = new.foldl (fun table p => Sorted.put p.1 p.2 table) done ∧ s = t ++ r := by
  have hmember : ∀ {done s next r}, readMember item size done s = .ok (next, r) →
      ∃ (m : String × Value) (t : List Char), next = Sorted.put m.1 m.2 done ∧
        (∃ term : Term, term.Stands m.2 ∧
          MemberText (WrittenText m.1.toList) term.Written ('"' :: t)) ∧ s = t ++ r := by
    intro done s next r hread
    obtain ⟨⟨key, behind⟩, hkey, hread⟩ := bind_eq_ok.mp hread
    obtain ⟨start, hcolon, hread⟩ := bind_eq_ok.mp hread
    obtain ⟨⟨v, left⟩, hv, hread⟩ := bind_eq_ok.mp hread
    obtain ⟨rfl, rfl⟩ := Prod.mk.inj (Except.ok.inj hread)
    obtain ⟨w, u, term, hw, hterm, hstands, rfl⟩ := hitem hv
    obtain ⟨t, htext, hs⟩ := memberText_of_readString hkey hcolon hw hterm
    exact ⟨(key, v), t, rfl, ⟨term, hstands, htext⟩, hs⟩
  obtain ⟨new, t, hparts, hfolds, hs⟩ := parts_of_readMembers
    (f := fun done (m : String × Value) next => next = Sorted.put m.1 m.2 done)
    (p := fun (m : String × Value) t => ∃ term : Term, term.Stands m.2 ∧
      MemberText (WrittenText m.1.toList) term.Written t) hmember h
  obtain ⟨members, hstands, hmembers⟩ := hparts.exists_forall₂ (R := flip (KeyedBy Term.Stands))
    (q := fun m : String × Term => MemberText (WrittenText m.1.toList) m.2.Written)
    fun m _ _ _ ⟨term, hterm, htext⟩ => ⟨(m.1, term), .mk hterm, htext⟩
  exact ⟨members, new, t, parts_iff_writtenMembers.mp hmembers, hstands.flip, hfolds.eq_foldl, hs⟩

/-- What is read as a value is white space and a term that it stands for. -/
theorem starts_of_readValue (h : readValue size depth s = .ok (v, r)) : Starts s v r := by
  induction depth generalizing s v r with
  | zero => cases h
  | succ depth ih =>
    obtain ⟨w, hw, hs⟩ := exists_blank_append_skipSpace s
    have hterm : ∀ {t : List Char} {term : Term}, term.Written t → term.Stands v →
        skipSpace s = t ++ r → Starts s v r := fun hwritten hstands hskip =>
      ⟨w, _, _, hw, hwritten, hstands, by rw [hs, hskip]⟩
    have hliteral : ∀ {c : Char} {word rest : List Char} {value : Value} {term : Term},
        skipSpace s = c :: rest → readLiteral value word rest = .ok (v, r) →
        term.Written (c :: word) → term.Stands value → Starts s v r := by
      intro c word rest value term hskip hread hwritten hstands
      obtain ⟨rfl, rfl⟩ := eq_append_of_readLiteral hread
      exact hterm hwritten hstands hskip
    have hnumber : ∀ (positive : Bool) {rest : List Char}, readNumber positive rest = .ok (v, r) →
        skipSpace s = (if positive then [] else ['-']) ++ rest → Starts s v r := by
      intro positive rest hread hskip
      obtain ⟨n, hsign, rfl, hv⟩ := written_of_readNumber hread
      refine hterm (.number n) (.number hv) ?_
      rw [hskip, Numeral.text, hsign]
      cases positive <;> simp
    rw [readValue] at h
    split at h
    · cases h
    · next heq => exact hliteral heq h .null .null
    · next heq => exact hliteral heq h .true (.bool true)
    · next heq => exact hliteral heq h .false (.bool false)
    · next heq => exact hnumber false h heq
    · next rest heq =>
      obtain ⟨⟨text, left⟩, htext, hv⟩ := bind_eq_ok.mp h
      obtain ⟨rfl, rfl⟩ := Prod.mk.inj (Except.ok.inj hv)
      obtain ⟨t, ht, rfl⟩ := writtenText_of_readString htext
      exact hterm (.string ht) (.string _) (by rw [heq]; simp)
    · next rest heq =>
      split at h
      · cases h
      · obtain ⟨⟨vs, left⟩, hvs, hv⟩ := bind_eq_ok.mp h
        obtain ⟨rfl, rfl⟩ := Prod.mk.inj (Except.ok.inj hv)
        obtain ⟨items, new, t, hitems, hnew, rfl, rfl⟩ := written_of_readItems ih hvs
        exact hterm (.array hitems) (.array hnew) (by rw [heq]; rfl)
    · next rest heq =>
      split at h
      · cases h
      · obtain ⟨⟨vs, left⟩, hvs, hv⟩ := bind_eq_ok.mp h
        obtain ⟨rfl, rfl⟩ := Prod.mk.inj (Except.ok.inj hv)
        obtain ⟨members, new, t, hmembers, hnew, rfl, rfl⟩ := written_of_readMembers ih hvs
        exact hterm (.object hmembers) (.object hnew) (by rw [heq]; rfl)
    · next heq =>
      split at h
      · exact hnumber true h heq
      · cases h

/-- A text that holds one thing is read if only white space is left behind it. -/
theorem readWhole_eq_ok_iff {α : Type} {read : Nat → List Char → Except Fault (α × List Char)}
    {a : α} : readWhole read s = .ok a ↔
      ∃ space, Blank space ∧ read (s.length + 1) s = .ok (a, space) := by
  unfold readWhole
  constructor
  · intro h
    obtain ⟨⟨a', left⟩, hread, hend⟩ := bind_eq_ok.mp h
    obtain ⟨space, hspace, hleft⟩ := exists_blank_append_skipSpace left
    simp only at hend
    split at hend
    · next hnil =>
      obtain rfl := Except.ok.inj hend
      rw [hnil, List.append_nil] at hleft
      exact ⟨space, hspace, hleft ▸ hread⟩
    · cases hend
  · rintro ⟨space, hspace, hread⟩
    have hskip : skipSpace space = [] := by
      simpa [skipSpace] using skipSpace_append hspace []
    simp only [hread, hskip, bind, Except.bind]
    rfl

/-- **What is parsed is what the text says.** -/
theorem says_of_parse {text : String} (h : parse text = .ok v) :
    ∃ term, Says text term ∧ term.Stands v := by
  unfold parse at h
  split at h
  · next value hread =>
    obtain rfl := Except.ok.inj h
    obtain ⟨space, hspace, hvalue⟩ := readWhole_eq_ok_iff.mp hread
    obtain ⟨w, t, term, hw, hterm, hstands, htext⟩ := starts_of_readValue hvalue
    exact ⟨term, ⟨w, t, space, hw, hterm, hspace, htext⟩, hstands⟩
  · cases h

/-! ### Terms that are read -/

/-- Whether a term nests less deep than a bound and its numbers are whole numbers of 64 bits. -/
def Term.Readable : Nat → Term → Prop
  | 0, _ => False
  | _ + 1, .number n => n.IsUnsigned maxUnsigned
  | depth + 1, .array items => depth ≠ 0 ∧ ∀ item ∈ items, Term.Readable depth item
  | depth + 1, .object members => depth ≠ 0 ∧ ∀ m ∈ members, Term.Readable depth m.2
  | _ + 1, _ => True

/-- Whether a term is read, wherever it stands, as a value that is kept of it. -/
def Reads (item : List Char → Except Fault (Value × List Char)) (size : Nat) (term : Term) :
    Prop :=
  ∀ {t : List Char}, term.Written t → t.length < size → ∃ v, term.Stands v ∧
    ∀ {w r : List Char}, Blank w → Ends r → item (w ++ (t ++ r)) = .ok (v, r)

theorem ends_of_writtenItems {items : List Term} (h : WrittenItems false items t)
    (r : List Char) : Ends (t ++ r) :=
  (parts_iff_writtenItems.mpr h).ends (.inl rfl) r

theorem ends_of_writtenMembers {members : List (String × Term)}
    (h : WrittenMembers false members t) (r : List Char) : Ends (t ++ r) :=
  (parts_iff_writtenMembers.mpr h).ends (.inr rfl) r

theorem isSpace_of_isDigit {c : Char} (hc : c.isDigit = true) : isSpace c = false := by
  refine Bool.eq_false_of_not_eq_true fun hspace => ?_
  have hmem := isSpace_iff.mp hspace
  simp only [List.mem_cons, List.not_mem_nil, or_false] at hmem
  rcases hmem with rfl | rfl | rfl | rfl <;> exact absurd hc (by decide)

/-- A term starts with a character that is no white space and closes no list. -/
theorem exists_cons_of_written (h : term.Written t) :
    ∃ c s, t = c :: s ∧ isSpace c = false ∧ c ≠ ']' := by
  cases h with
  | null => exact ⟨_, _, rfl, by decide, by decide⟩
  | true => exact ⟨_, _, rfl, by decide, by decide⟩
  | false => exact ⟨_, _, rfl, by decide, by decide⟩
  | string h => exact ⟨_, _, rfl, by decide, by decide⟩
  | array h => exact ⟨_, _, rfl, by decide, by decide⟩
  | object h => exact ⟨_, _, rfl, by decide, by decide⟩
  | number n =>
    obtain ⟨c, s, htext, hc⟩ := n.exists_cons_text
    refine ⟨c, s, htext, ?_⟩
    split at hc
    · subst hc
      exact ⟨by decide, by decide⟩
    · refine ⟨isSpace_of_isDigit hc, ?_⟩
      rintro rfl
      exact absurd hc (by decide)

/-- Items that are read one by one are read in a list. -/
theorem readItems_of_written {items : List Term} (hwritten : WrittenItems first items t)
    (hitem : ∀ term ∈ items, Reads item size term) (hsize : t.length < size) :
    ∃ vs, List.Forall₂ Term.Stands items vs ∧
      ∀ r, readItems item size first [] (t ++ r) = .ok (vs, r) := by
  obtain ⟨vs, hvs, hparts⟩ := (parts_iff_writtenItems.mpr hwritten).exists_forall₂
    (R := Term.Stands) (q := ReadAs item) fun term hmem s hs hterm => by
      obtain ⟨v, hstands, hread⟩ := hitem term hmem hterm (hs.trans hsize)
      exact ⟨v, hstands, exists_cons_of_written hterm, fun hr => hread blank_nil hr⟩
  exact ⟨vs, hvs, readItems_of_parts hparts hsize []⟩

/-- The key of a member is read, and behind the colon its value is left. -/
theorem MemberText.read {key : String} {value : List Char → Prop}
    (h : MemberText (WrittenText key.toList) value s) (hsize : s.length < size) :
    ∃ t w u, s = '"' :: t ∧ Blank w ∧ value u ∧ u.length < size ∧
      ∀ r, ∃ behind, readString size [] (t ++ r) = .ok (key, behind) ∧
        readColon behind = .ok (w ++ (u ++ r)) := by
  cases h with
  | @mk k gap w u hk hgap hw hvalue =>
    simp only [List.length_cons, List.length_append] at hsize
    refine ⟨_, w, u, rfl, hw, hvalue, by omega, fun r => ?_⟩
    refine ⟨gap ++ ':' :: (w ++ (u ++ r)), ?_, readColon_eq_ok_iff.mpr ⟨gap, hgap, rfl⟩⟩
    simpa using readString_of_writtenText hk (by omega) (gap ++ ':' :: (w ++ (u ++ r)))

/-- Members whose values are read one by one are read in an object. -/
theorem readMembers_of_written {members : List (String × Term)}
    (hwritten : WrittenMembers first members t) (hitem : ∀ m ∈ members, Reads item size m.2)
    (hsize : t.length < size) :
    ∃ vs, List.Forall₂ (KeyedBy Term.Stands) members vs ∧
      ∀ r, readMembers (readMember item size) size first [] (t ++ r) =
        .ok (Sorted.ofList vs, r) := by
  obtain ⟨vs, hvs, hparts⟩ := (parts_iff_writtenMembers.mpr hwritten).exists_forall₂
    (R := KeyedBy Term.Stands)
    (q := fun m s => ∃ t, s = '"' :: t ∧ ∀ {done r}, Ends r →
      readMember item size done (t ++ r) = .ok (Sorted.put m.1 m.2 done, r))
    fun m hmem s hs hmember => by
      obtain ⟨t, w, u, rfl, hw, hvalue, hu, hkey⟩ := hmember.read (hs.trans hsize)
      obtain ⟨v, hstands, hread⟩ := hitem m hmem hvalue hu
      refine ⟨(m.1, v), .mk hstands, t, rfl, fun {done r} hr => ?_⟩
      obtain ⟨behind, hbehind, hcolon⟩ := hkey r
      exact bind_eq_ok.mpr ⟨_, hbehind, bind_eq_ok.mpr ⟨_, hcolon,
        bind_eq_ok.mpr ⟨_, hread hw hr, rfl⟩⟩⟩
  refine ⟨vs, hvs, readMembers_of_parts hparts (folds_foldl (fun done m => Sorted.put m.1 m.2 done)
    [] vs) (fun hstep hmember => ?_) hsize⟩
  subst hstep
  exact hmember.imp fun _ h => ⟨h.1, h.2⟩

/-- A word is read as what it stands for. -/
theorem readLiteral_append (value : Value) (word r : List Char) :
    readLiteral value word (word ++ r) = .ok (value, r) := by
  induction word with
  | nil => rfl
  | cons c word ih => exact (if_pos rfl).trans ih

theorem readValue_blank (hw : Blank w) (s : List Char) :
    readValue size (depth + 1) (w ++ s) = readValue size (depth + 1) s := by
  rw [readValue, readValue, skipSpace_append hw]

theorem readValue_digit {c : Char} (hc : c.isDigit = true) (s : List Char) :
    readValue size (depth + 1) (c :: s) = readNumber true (c :: s) := by
  have hne : ∀ {d : Char} {rest : List Char}, c :: s = d :: rest → d.isDigit ≠ true → False :=
    fun heq hd => hd ((List.cons.inj heq).1 ▸ hc)
  rw [readValue, skipSpace_cons (isSpace_of_isDigit hc)]
  split
  case h_1 heq => cases heq
  case h_9 heq =>
    obtain ⟨rfl, rfl⟩ := List.cons.inj heq
    exact if_pos hc
  -- No other kind of term starts with a digit.
  all_goals
    next heq => exact (hne heq (by decide)).elim

/-- **A term that is not too deep and has only whole numbers is read.** -/
theorem reads_readValue (h : Term.Readable depth term) : Reads (readValue size depth) size term := by
  induction depth generalizing term with
  | zero => exact absurd h id
  | succ depth ih =>
    intro t hwritten hsize
    suffices hread : ∃ v, term.Stands v ∧
        ∀ {r : List Char}, Ends r → readValue size (depth + 1) (t ++ r) = .ok (v, r) from
      hread.imp fun v ⟨hstands, hv⟩ => ⟨hstands, fun hw hr => (readValue_blank hw _).trans (hv hr)⟩
    cases hwritten with
    | null => exact ⟨.null, .null, fun _ => readLiteral_append .null "ull".toList _⟩
    | true => exact ⟨.bool true, .bool true, fun _ => readLiteral_append (.bool true) "rue".toList _⟩
    | false =>
      exact ⟨.bool false, .bool false, fun _ => readLiteral_append (.bool false) "alse".toList _⟩
    | number n =>
      have hn : n.IsUnsigned maxUnsigned := h
      obtain ⟨c, more, hwhole⟩ := List.exists_cons_of_ne_nil n.whole_spec.1
      have hc : c.isDigit = true := n.whole_spec.2 c (hwhole ▸ List.mem_cons_self)
      have htext : n.text = c :: more := (Numeral.text_of_isUnsigned hn).trans hwhole
      refine ⟨.int n.magnitude, .number (Numeral.integer?_of_isUnsigned hn ▸ .int _), fun hr => ?_⟩
      have hread := readNumber_of_unsigned hn hr
      rw [htext] at hread ⊢
      exact (readValue_digit hc _).trans hread
    | @string text t htext =>
      refine ⟨.string text, .string text, fun {r} _ => ?_⟩
      simp only [List.length_append, List.length_cons, List.length_nil] at hsize
      have hread := readString_of_writtenText htext (by omega : t.length < size) r
      have hstart : readValue size (depth + 1) ('"' :: (t ++ ['"']) ++ r) =
          (readString size [] (t ++ '"' :: r) >>= fun p => .ok (.string p.1, p.2)) := by
        rw [List.cons_append, List.append_assoc]
        rfl
      rw [hstart, hread]
      rfl
    | @array items t hitems =>
      obtain ⟨hdepth, hreadable⟩ := h
      rw [List.length_cons] at hsize
      obtain ⟨vs, hvs, hread⟩ := readItems_of_written hitems
        (fun item hitem => ih (hreadable item hitem)) (Nat.lt_of_succ_lt hsize)
      refine ⟨.array vs, .array hvs, fun {r} _ => ?_⟩
      have hstart : readValue size (depth + 1) ('[' :: t ++ r) =
          (readItems (readValue size depth) size true [] (t ++ r) >>= fun p =>
            .ok (.array p.1, p.2)) := if_neg hdepth
      rw [hstart, hread]
      rfl
    | @object members t hmembers =>
      obtain ⟨hdepth, hreadable⟩ := h
      rw [List.length_cons] at hsize
      obtain ⟨vs, hvs, hread⟩ := readMembers_of_written hmembers
        (fun m hm => ih (hreadable m hm)) (Nat.lt_of_succ_lt hsize)
      refine ⟨.object (Sorted.ofList vs), .object hvs, fun {r} _ => ?_⟩
      have hstart : readValue size (depth + 1) ('\x7b' :: t ++ r) =
          (readMembers (readMember (readValue size depth) size) size true [] (t ++ r) >>= fun p =>
            .ok (.object p.1, p.2)) := if_neg hdepth
      rw [hstart, hread]
      rfl

/-- **What a text says is parsed, if it is not too deep and has only whole numbers.** -/
theorem exists_parse {text : String} (h : Says text term)
    (hreadable : term.Readable standardDepth) :
    ∃ v, parse text = .ok v ∧ term.Stands v := by
  obtain ⟨w, t, space, hw, hwritten, hspace, htext⟩ := h
  have hsize : t.length < text.toList.length + 1 := by
    rw [htext, List.length_append, List.length_append]
    omega
  obtain ⟨v, hstands, hv⟩ := reads_readValue hreadable hwritten hsize
  have hread : readText standardDepth text.toList = .ok v :=
    readWhole_eq_ok_iff.mpr ⟨space, hspace, htext ▸ hv hw hspace.ends⟩
  refine ⟨v, ?_, hstands⟩
  unfold parse
  rw [hread]

end SopDocs.Json
