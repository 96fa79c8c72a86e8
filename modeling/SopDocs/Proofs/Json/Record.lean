import Mathlib.Data.List.DropRight
import Mathlib.Data.List.ReduceOption
import SopDocs.Proofs.Json.Loose
import SopDocs.Proofs.Sorted

/-!
# What is read of a record

Of a record some members are kept, each at most once, and the others are passed over. The text of a
record says what is kept of it: the members with known keys in their order, with the terms that they
are written with. Such texts are read, and no others.
-/

namespace SopDocs.Json

/-- A member of a record as it is written: one that is kept, or one that is passed over. -/
inductive RecordMember (fields : List String) : Option (String × Term) → List Char → Prop where
  | field {key : String} {term : Term} {s : List Char} (hkey : key ∈ fields)
      (h : MemberText (WrittenText key.toList) term.Written s) :
      RecordMember fields (some (key, term)) s
  | other {key : String} {s : List Char} (hkey : key ∉ fields)
      (h : MemberText (WrittenText key.toList) Loose s) : RecordMember fields none s

/-- The ways to write a record of which some members are kept, none of them twice. -/
inductive RecordText (fields : List String) : List (String × Term) → List Char → Prop where
  | mk {members : List (Option (String × Term))} {t : List Char}
      (hparts : Parts '\x7d' (RecordMember fields) true members t)
      (hkeys : (members.reduceOption.map (·.1)).Nodup) :
      RecordText fields members.reduceOption ('\x7b' :: t)

/-- Whether a value is what is kept of a record, or of a term that is no object. -/
inductive RecordValue (fields : List String) : Value → List Char → Prop where
  | record {members : List (String × Term)} {vs : List (String × Value)} {t : List Char}
      (h : RecordText fields members t) (hvs : List.Forall₂ (KeyedBy Term.Stands) members vs) :
      RecordValue fields (.object (Sorted.ofList vs)) t
  | other {term : Term} {v : Value} {t : List Char} (h : term.Written t)
      (hterm : ∀ members, term ≠ .object members) (hv : term.Stands v) : RecordValue fields v t

/-- A member is put to those before it if it is kept, and then none of them has its key. -/
inductive Keeps : List (String × Value) → Option (String × Value) → List (String × Value) → Prop
    where
  | field {done : List (String × Value)} {p : String × Value}
      (hnew : Sorted.contains p.1 done = false) : Keeps done (some p) (Sorted.put p.1 p.2 done)
  | other (done : List (String × Value)) : Keeps done none done

variable {fields : List String} {size depth : Nat} {s r t w : List Char} {v : Value}
  {item : List Char → Except Fault (Value × List Char)} {done next result : List (String × Value)}

/-! ### Members that are kept -/

/-- Members are kept one after the other exactly if their keys are new and differ. -/
theorem folds_keeps_iff {ms : List (Option (String × Value))} :
    Folds Keeps done ms result ↔ (ms.reduceOption.map (·.1)).Nodup ∧
      (∀ p ∈ ms.reduceOption, Sorted.contains p.1 done = false) ∧
      result = ms.reduceOption.foldl (fun table p => Sorted.put p.1 p.2 table) done := by
  induction ms generalizing done with
  | nil =>
    constructor
    · rintro ⟨⟩
      exact ⟨.nil, by simp, rfl⟩
    · rintro ⟨-, -, rfl⟩
      exact .nil _
  | cons m ms ih =>
    cases m with
    | none =>
      rw [List.reduceOption_cons_of_none, ← ih]
      constructor
      · rintro (_ | ⟨⟨⟩, hsteps⟩)
        exact hsteps
      · exact .cons (.other done)
    | some p =>
      have hput : ∀ q : String × Value, Sorted.contains q.1 (Sorted.put p.1 p.2 done) = false ↔
          p.1 ≠ q.1 ∧ Sorted.contains q.1 done = false := by
        intro q
        rw [Sorted.contains, Sorted.contains, Sorted.get?_put]
        by_cases hkey : p.1 = q.1 <;> simp [hkey]
      rw [List.reduceOption_cons_of_some, List.map_cons, List.nodup_cons, List.forall_mem_cons,
        List.foldl_cons]
      constructor
      · rintro (_ | ⟨⟨hnew⟩, hsteps⟩)
        obtain ⟨hnodup, hrest, hresult⟩ := ih.mp hsteps
        refine ⟨⟨fun hmem => ?_, hnodup⟩, ⟨hnew, fun q hq => ((hput q).mp (hrest q hq)).2⟩, hresult⟩
        obtain ⟨q, hq, hkey⟩ := List.mem_map.mp hmem
        exact ((hput q).mp (hrest q hq)).1 hkey.symm
      · rintro ⟨⟨hmem, hnodup⟩, ⟨hnew, hrest⟩, hresult⟩
        refine .cons (.field hnew) (ih.mpr ⟨hnodup, fun q hq => (hput q).mpr ⟨?_, hrest q hq⟩,
          hresult⟩)
        exact fun hkey => hmem (List.mem_map.mpr ⟨q, hq, hkey.symm⟩)

theorem forall₂_reduceOption {members : List (Option (String × Term))}
    {ms : List (Option (String × Value))}
    (h : List.Forall₂ (Option.Rel (KeyedBy Term.Stands)) members ms) :
    List.Forall₂ (KeyedBy Term.Stands) members.reduceOption ms.reduceOption :=
  List.rel_filterMap (fun _ _ hm => hm) h

/-! ### Records that are read -/

/-- What is read as a member of a record is written as one. -/
theorem keeps_of_readField (hitem : ∀ {s v r}, item s = .ok (v, r) → Starts s v r)
    (h : readField fields item size done s = .ok (next, r)) :
    ∃ m t, Keeps done m next ∧
      (∃ member, Option.Rel (KeyedBy Term.Stands) member m ∧
        RecordMember fields member ('"' :: t)) ∧ s = t ++ r := by
  obtain ⟨⟨key, behind⟩, hkey, hread⟩ := bind_eq_ok.mp h
  simp only at hread
  split at hread
  · next hfield =>
    split at hread
    · cases hread
    · next hnew =>
      obtain ⟨start, hcolon, hread⟩ := bind_eq_ok.mp hread
      obtain ⟨⟨v, left⟩, hv, hread⟩ := bind_eq_ok.mp hread
      obtain ⟨rfl, rfl⟩ := Prod.mk.inj (Except.ok.inj hread)
      obtain ⟨w, u, term, hw, hterm, hstands, rfl⟩ := hitem hv
      obtain ⟨t, htext, hs⟩ := memberText_of_readString hkey hcolon hw hterm
      exact ⟨some (key, v), t, .field (Bool.eq_false_of_not_eq_true hnew),
        ⟨some (key, term), .some (.mk hstands), .field hfield htext⟩, hs⟩
  · next hfield =>
    obtain ⟨start, hcolon, hread⟩ := bind_eq_ok.mp hread
    obtain ⟨⟨_, left⟩, hskip, hread⟩ := bind_eq_ok.mp hread
    obtain ⟨rfl, rfl⟩ := Prod.mk.inj (Except.ok.inj hread)
    obtain ⟨w, u, hw, hloose, rfl⟩ := loose_of_skipValue hskip
    obtain ⟨t, htext, hs⟩ := memberText_of_readString hkey hcolon hw hloose
    exact ⟨none, t, .other done, ⟨none, .none, .other hfield htext⟩, hs⟩

/-- What is read as a record is white space and what it is written with. -/
theorem recordValue_of_readRecord (h : readRecord fields size depth s = .ok (v, r)) :
    ∃ w t, Blank w ∧ RecordValue fields v t ∧ s = w ++ (t ++ r) := by
  cases depth with
  | zero => cases h
  | succ depth =>
    obtain ⟨w, hw, hs⟩ := exists_blank_append_skipSpace s
    rw [readRecord] at h
    split at h
    · next rest heq =>
      split at h
      · cases h
      · obtain ⟨⟨table, left⟩, htable, hv⟩ := bind_eq_ok.mp h
        obtain ⟨rfl, rfl⟩ := Prod.mk.inj (Except.ok.inj hv)
        obtain ⟨ms, t, hparts, hfolds, rfl⟩ := parts_of_readMembers (f := Keeps)
          (p := fun m s => ∃ member, Option.Rel (KeyedBy Term.Stands) member m ∧
            RecordMember fields member s)
          (fun hm => keeps_of_readField starts_of_readValue hm) htable
        obtain ⟨members, hrel, hmembers⟩ := hparts.exists_forall₂
          (R := flip (Option.Rel (KeyedBy Term.Stands))) fun _ _ _ _ hm => hm
        obtain ⟨hkeys, -, rfl⟩ := folds_keeps_iff.mp hfolds
        have hkeyed := forall₂_reduceOption hrel.flip
        have hrecord := RecordText.mk hmembers (map_key_eq hkeyed ▸ hkeys)
        exact ⟨w, _, hw, .record hrecord hkeyed, by rw [hs, heq]; rfl⟩
    · next hbrace =>
      obtain ⟨gap, t, term, hgap, hterm, hstands, htext⟩ := starts_of_readValue h
      refine ⟨w ++ gap, t, hw.append hgap, .other hterm ?_ hstands, by
        rw [hs, htext, List.append_assoc]⟩
      rintro members rfl
      cases hterm with
      | object _ =>
        -- The brace would stand where the white space has ended.
        have hskip := congrArg skipSpace htext
        rw [skipSpace_append hgap, List.cons_append, skipSpace_cons (by decide)] at hskip
        exact hbrace _ ((List.dropWhile_idempotent isSpace s).symm.trans hskip)

/-- What is read as a list of records is written as one. -/
theorem parts_of_readRecords {vs : List Value}
    (h : readRecords fields size depth s = .ok (vs, r)) :
    ∃ w t, Blank w ∧ Parts ']' (RecordValue fields) true vs t ∧ s = w ++ '[' :: (t ++ r) := by
  cases depth with
  | zero => cases h
  | succ depth =>
    obtain ⟨w, hw, hs⟩ := exists_blank_append_skipSpace s
    rw [readRecords] at h
    split at h
    · next rest heq =>
      split at h
      · cases h
      · obtain ⟨new, t, hparts, rfl, rfl⟩ :=
          parts_of_readItems (p := RecordValue fields) recordValue_of_readRecord h
        exact ⟨w, t, hw, hparts, by rw [hs, heq]⟩
    · cases h
    · cases h

/-! ### Records whose texts are read -/

/-- A member that is kept is read if its value is, and one that is not is passed over. -/
theorem readField_of_recordMember {member : Option (String × Term)}
    (h : RecordMember fields member s) (hitem : ∀ m ∈ member, Reads item size m.2)
    (hsize : s.length < size) :
    ∃ m, Option.Rel (KeyedBy Term.Stands) member m ∧ ∃ t, s = '"' :: t ∧
      ∀ {done next r}, Keeps done m next → Ends r →
        readField fields item size done (t ++ r) = .ok (next, r) := by
  cases h with
  | @field key term s hkey hmember =>
    obtain ⟨t, w, u, rfl, hw, hvalue, hu, hread⟩ := hmember.read hsize
    obtain ⟨v, hstands, hv⟩ := hitem (key, term) rfl hvalue hu
    refine ⟨some (key, v), .some (.mk hstands), t, rfl, ?_⟩
    rintro done _ r ⟨hnew⟩ hr
    obtain ⟨behind, hbehind, hcolon⟩ := hread r
    refine bind_eq_ok.mpr ⟨_, hbehind, ?_⟩
    simp only [hkey, hnew, if_true, Bool.false_eq_true, if_false]
    exact bind_eq_ok.mpr ⟨_, hcolon, bind_eq_ok.mpr ⟨_, hv hw hr, rfl⟩⟩
  | @other key s hkey hmember =>
    obtain ⟨t, w, u, rfl, hw, hvalue, hu, hread⟩ := hmember.read hsize
    refine ⟨none, .none, t, rfl, ?_⟩
    rintro done _ r ⟨⟩ hr
    obtain ⟨behind, hbehind, hcolon⟩ := hread r
    refine bind_eq_ok.mpr ⟨_, hbehind, ?_⟩
    simp only [hkey, if_false]
    exact bind_eq_ok.mpr ⟨_, hcolon, bind_eq_ok.mpr ⟨_, skipValue_of_loose hvalue hu hu hw hr, rfl⟩⟩

/-- **A record is read if what is kept of it is.** -/
theorem readRecord_of_recordText {members : List (String × Term)}
    (h : RecordText fields members t) (hdepth : depth ≠ 0)
    (hreadable : ∀ m ∈ members, Term.Readable depth m.2) (hsize : t.length < size) :
    ∃ vs, List.Forall₂ (KeyedBy Term.Stands) members vs ∧ ∀ {w r : List Char}, Blank w →
      readRecord fields size (depth + 1) (w ++ (t ++ r)) = .ok (.object (Sorted.ofList vs), r) := by
  cases h with
  | @mk members t hparts hkeys =>
    rw [List.length_cons] at hsize
    obtain ⟨ms, hms, hread⟩ := hparts.exists_forall₂ (R := Option.Rel (KeyedBy Term.Stands))
      (q := fun m s => ∃ t, s = '"' :: t ∧ ∀ {done next r}, Keeps done m next → Ends r →
        readField fields (readValue size depth) size done (t ++ r) = .ok (next, r))
      fun member hmem s hs hmember => readField_of_recordMember hmember
        (fun m hm => reads_readValue (hreadable m (List.reduceOption_mem_iff.mpr (hm ▸ hmem))))
        (by omega)
    have hkeyed := forall₂_reduceOption hms
    have hfolds : Folds Keeps [] ms (Sorted.ofList ms.reduceOption) :=
      folds_keeps_iff.mpr ⟨(map_key_eq hkeyed).symm ▸ hkeys, fun _ _ => rfl, rfl⟩
    refine ⟨ms.reduceOption, hkeyed, fun {w r} hw => ?_⟩
    have hmembers := readMembers_of_parts hread hfolds
      (fun hkeeps hmember => hmember.imp fun _ h => ⟨h.1, h.2 hkeeps⟩) (Nat.lt_of_succ_lt hsize) r
    rw [readRecord, skipSpace_append hw]
    exact (if_neg hdepth).trans (bind_eq_ok.mpr ⟨_, hmembers, rfl⟩)

/-- A list in place of a record is read as any list. -/
theorem readRecord_of_array {items : List Term} (h : (Term.array items).Written t)
    (hreadable : Term.Readable depth (.array items)) (hsize : t.length < size) :
    ∃ vs, List.Forall₂ Term.Stands items vs ∧ ∀ {w r : List Char}, Blank w → Ends r →
      readRecord fields size depth (w ++ (t ++ r)) = .ok (.array vs, r) := by
  obtain ⟨v, hstands, hread⟩ := reads_readValue hreadable h hsize
  cases hstands with
  | array hvs =>
    refine ⟨_, hvs, fun {w r} hw hr => ?_⟩
    cases depth with
    | zero => exact absurd hreadable id
    | succ depth =>
      cases h with
      | array _ =>
        rw [readRecord, skipSpace_append hw]
        exact hread blank_nil hr

/-- Records that are read one by one are read in a list. -/
theorem readRecords_of_parts {vs : List Value}
    (h : Parts ']' (ReadAs (readRecord fields size depth)) true vs t) (hdepth : depth ≠ 0)
    (hsize : t.length < size) (hw : Blank w) (r : List Char) :
    readRecords fields size (depth + 1) (w ++ '[' :: (t ++ r)) = .ok (vs, r) := by
  rw [readRecords, skipSpace_append hw]
  exact (if_neg hdepth).trans (readItems_of_parts h hsize [] r)

end SopDocs.Json
