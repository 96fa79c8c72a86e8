import SopDocs.Config.Reader
import SopDocs.Proofs.Sorted
import SopDocs.Proofs.Steps

/-!
# Settings are taken over one by one

Taking a setting over puts its value under its key and leaves every other setting as it is. A run
over settings with different keys therefore ends with the given values, and with the old ones where
none is given.
-/

namespace SopDocs.Config

open Json (Value)

variable {config next : Config} {key : String} {shape : Shape} {v : Value}

/-! ### Values of one type -/

theorem ofText_eq_ok_iff {s : String} : ofText v = .ok s ↔ v = .string s := by
  cases v <;> simp [ofText]

theorem ofFlag_eq_ok_iff {b : Bool} : ofFlag v = .ok b ↔ v = .bool b := by
  cases v <;> simp [ofFlag]

theorem mapM_ofText_eq_ok_iff {vs : List Value} {l : List String} :
    vs.mapM ofText = .ok l ↔ vs = l.map .string := by
  induction vs generalizing l with
  | nil => cases l <;> simp [pure, Except.pure]
  | cons v vs ih =>
    rw [List.mapM_cons, bind_eq_ok]
    constructor
    · rintro ⟨s, hs, hrest⟩
      obtain ⟨l', hl', hcons⟩ := bind_eq_ok.mp hrest
      obtain rfl := Except.ok.inj hcons
      rw [ofText_eq_ok_iff.mp hs, ih.mp hl', List.map_cons]
    · intro heq
      cases l with
      | nil => cases heq
      | cons s l =>
        obtain ⟨rfl, hvs⟩ := List.cons.inj heq
        exact ⟨s, rfl, bind_eq_ok.mpr ⟨l, ih.mpr hvs, rfl⟩⟩

theorem ofTexts_eq_ok_iff {l : List String} :
    ofTexts v = .ok l ↔ v = .array (l.map .string) := by
  cases v <;> simp [ofTexts, mapM_ofText_eq_ok_iff]

theorem ofUnsigned_eq_ok_iff {n : Nat} :
    ofUnsigned v = .ok n ↔ v = .int n ∧ n ≤ Json.maxUnsigned := by
  cases v with
  | int z =>
    rw [ofUnsigned, Value.int.injEq]
    split
    · rw [Except.ok.injEq]
      omega
    · simp only [reduceCtorEq, false_iff, not_and]
      rintro rfl
      omega
  | _ => simp [ofUnsigned]

theorem ofSigned_eq_ok_iff {z : Int} :
    ofSigned v = .ok z ↔ v = .int z ∧ Json.minSigned ≤ z ∧ z ≤ Json.maxSigned := by
  cases v with
  | int n =>
    rw [ofSigned, Value.int.injEq]
    split
    · rw [Except.ok.injEq]
      omega
    · simp only [reduceCtorEq, false_iff, not_and]
      rintro rfl
      omega
  | _ => simp [ofSigned]

/-! ### One setting -/

/-- The table with another value for a key that it has. -/
def replace (key : String) (v : Value) (table : List (String × Value)) : List (String × Value) :=
  table.map fun p => if p.1 = key then (p.1, v) else p

theorem get?_replace (key k : String) (v : Value) (table : List (String × Value)) :
    Sorted.get? k (replace key v table) =
      if k = key then (Sorted.get? k table).map fun _ => v else Sorted.get? k table := by
  unfold replace
  induction table with
  | nil => simp
  | cons p table ih =>
    rw [List.map_cons, Sorted.get?_cons, Sorted.get?_cons, ih]
    by_cases hp : p.1 = key <;> by_cases hk : k = key <;> by_cases hpk : p.1 = k <;>
      simp_all

/-- A setting that is taken over stands in its place, and nothing else changes. -/
theorem replace_of_set (h : config.set key v = .ok next) :
    next.baseDir = config.baseDir ∧
      ∃ fields, config.toJson = .object fields ∧ next.toJson = .object (replace key v fields) := by
  have htexts : ∀ {put : List String → Config}, (ofTexts v).map put = .ok next →
      ∃ l, v = .array (l.map .string) ∧ put l = next := fun hmap =>
    (map_eq_ok.mp hmap).imp fun _ hl => hl.imp_left ofTexts_eq_ok_iff.mp
  unfold set at h
  split at h
  case h_6 | h_9 =>
    obtain ⟨l, rfl, rfl⟩ := htexts h
    exact ⟨rfl, _, rfl, by simp [toJson, replace]⟩
  case h_7 =>
    obtain ⟨b, hb, rfl⟩ := map_eq_ok.mp h
    obtain rfl := ofFlag_eq_ok_iff.mp hb
    exact ⟨rfl, _, rfl, by simp [toJson, replace]⟩
  case h_8 =>
    obtain ⟨n, hn, rfl⟩ := map_eq_ok.mp h
    obtain ⟨rfl, -⟩ := ofUnsigned_eq_ok_iff.mp hn
    exact ⟨rfl, _, rfl, by simp [toJson, replace]⟩
  case h_10 =>
    obtain ⟨z, hz, rfl⟩ := map_eq_ok.mp h
    obtain ⟨rfl, -⟩ := ofSigned_eq_ok_iff.mp hz
    exact ⟨rfl, _, rfl, by simp [toJson, replace]⟩
  case h_12 =>
    obtain rfl := Except.ok.inj h
    refine ⟨rfl, _, rfl, ?_⟩
    simp_all [toJson, replace, eq_comm]
  all_goals
    obtain ⟨s, hs, rfl⟩ := map_eq_ok.mp h
    obtain rfl := ofText_eq_ok_iff.mp hs
    exact ⟨rfl, _, rfl, by simp [toJson, replace]⟩

theorem field?_of_set (h : config.set key v = .ok next) (k : String) :
    next.toJson.field? k =
      if k = key then (config.toJson.field? k).map fun _ => v else config.toJson.field? k := by
  obtain ⟨-, fields, hold, hnew⟩ := replace_of_set h
  rw [hold, hnew]
  exact get?_replace key k v fields

/-! ### A run over settings -/

/-- **Every setting that is given is taken over, and every other one is kept.** -/
theorem field?_of_setAll {members : List (String × Value)} (hkeys : (members.map (·.1)).Nodup)
    (h : config.setAll members = .ok next) :
    next.baseDir = config.baseDir ∧
      (∀ p ∈ members, next.toJson.field? p.1 = (config.toJson.field? p.1).map fun _ => p.2) ∧
      ∀ key ∉ members.map (·.1), next.toJson.field? key = config.toJson.field? key := by
  induction members generalizing config with
  | nil =>
    obtain rfl := Except.ok.inj h
    exact ⟨rfl, by simp, fun _ _ => rfl⟩
  | cons p members ih =>
    obtain ⟨middle, hset, hrest⟩ := bind_eq_ok.mp h
    obtain ⟨hfirst, hkeys⟩ := List.nodup_cons.mp hkeys
    obtain ⟨hbase, hgiven, hother⟩ := ih hkeys hrest
    refine ⟨hbase.trans (replace_of_set hset).1, List.forall_mem_cons.mpr ⟨?_, ?_⟩, ?_⟩
    · rw [hother p.1 hfirst, field?_of_set hset, if_pos rfl]
    · intro q hq
      have hne : q.1 ≠ p.1 := fun heq => hfirst (List.mem_map.mpr ⟨q, hq, heq⟩)
      rw [hgiven q hq, field?_of_set hset, if_neg hne]
    · intro key hkey
      rw [List.map_cons, List.mem_cons, not_or] at hkey
      rw [hother key hkey.2, field?_of_set hset, if_neg hkey.1]

/-- A run over settings is one that takes each of them over, whatever it starts with. -/
theorem exists_setAll {members : List (String × Value)}
    (h : ∀ p ∈ members, ∀ config, ∃ next, Config.set config p.1 p.2 = .ok next)
    (config : Config) : ∃ next, config.setAll members = .ok next := by
  induction members generalizing config with
  | nil => exact ⟨config, rfl⟩
  | cons p members ih =>
    obtain ⟨hfirst, hrest⟩ := List.forall_mem_cons.mp h
    obtain ⟨middle, hmiddle⟩ := hfirst config
    obtain ⟨next, hnext⟩ := ih hrest middle
    exact ⟨next, bind_eq_ok.mpr ⟨middle, hmiddle, hnext⟩⟩

theorem exists_set_of_setAll {members : List (String × Value)}
    (h : config.setAll members = .ok next) {p : String × Value} (hp : p ∈ members) :
    ∃ before after, Config.set before p.1 p.2 = .ok after := by
  induction members generalizing config with
  | nil => cases hp
  | cons q members ih =>
    obtain ⟨middle, hset, hrest⟩ := bind_eq_ok.mp h
    rcases List.mem_cons.mp hp with rfl | hp
    · exact ⟨config, middle, hset⟩
    · exact ih hrest hp

/-! ### Which values are taken over -/

/-- Whether a value has the type and size of the setting of a key with some shape. -/
def Suits (key : String) : Shape → Value → Prop
  | .text, v | .someText, v | .repositoryName, v => ∃ s, v = .string s
  | .flag, v => ∃ b, v = .bool b
  | .whole _, v => ∃ z : Int, v = .int z ∧
      if key = "requestTimeoutSecs" then 0 ≤ z ∧ z ≤ Json.maxUnsigned
      else Json.minSigned ≤ z ∧ z ≤ Json.maxSigned
  | .texts, v | .someTexts, v => ∃ l : List String, v = .array (l.map .string)

theorem exists_ofUnsigned_iff :
    (∃ n, ofUnsigned v = .ok n) ↔ ∃ z : Int, v = .int z ∧ 0 ≤ z ∧ z ≤ Json.maxUnsigned := by
  constructor
  · rintro ⟨n, hn⟩
    obtain ⟨rfl, hfits⟩ := ofUnsigned_eq_ok_iff.mp hn
    exact ⟨n, rfl, by omega, by omega⟩
  · rintro ⟨z, rfl, hlow, hhigh⟩
    obtain ⟨n, rfl⟩ := Int.eq_ofNat_of_zero_le hlow
    exact ⟨n, ofUnsigned_eq_ok_iff.mpr ⟨rfl, by omega⟩⟩

/-- A setting is taken over exactly if its value suits. -/
theorem exists_set_iff (hkey : (key, shape) ∈ schema) :
    (∃ next, config.set key v = .ok next) ↔ key = "$schema" ∨ Suits key shape v := by
  have hmap : ∀ {α : Type} {x : Except Misfit α} {put : α → Config},
      (∃ next, x.map put = .ok next) ↔ ∃ a, x = .ok a := fun {α x put} => by
    cases x <;> simp [Except.map]
  simp only [schema, List.mem_cons, Prod.mk.injEq, List.not_mem_nil, or_false] at hkey
  rcases hkey with ⟨rfl, rfl⟩ | ⟨rfl, rfl⟩ | ⟨rfl, rfl⟩ | ⟨rfl, rfl⟩ | ⟨rfl, rfl⟩ | ⟨rfl, rfl⟩ |
    ⟨rfl, rfl⟩ | ⟨rfl, rfl⟩ | ⟨rfl, rfl⟩ | ⟨rfl, rfl⟩ | ⟨rfl, rfl⟩ | ⟨rfl, rfl⟩ <;>
    simp [set, hmap, Suits, ofText_eq_ok_iff, ofFlag_eq_ok_iff, ofTexts_eq_ok_iff,
      exists_ofUnsigned_iff, ofSigned_eq_ok_iff]

end SopDocs.Config
