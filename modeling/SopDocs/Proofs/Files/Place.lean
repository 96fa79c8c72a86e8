import SopDocs.Files.Finder
import SopDocs.Proofs.Path

/-!
# Without links a path leads where its components say

In a tree without links the place of a path can be read off its components, without looking at
the files: a name leads one level down, two dots one level up. The files then only decide
whether the path leads anywhere at all. The other way round, the path of a place has its names as
components.
-/

namespace SopDocs.Files

open SopDocs.Path (IsName ofPieces)

/-! ### Trees without links -/

mutual
/-- Whether an entry has no link in it and only names that a path can spell. -/
def Entry.isPlain : Entry → Bool
  | .file _ => true
  | .link _ => false
  | .dir entries => arePlain entries

def arePlain : List (String × Entry) → Bool
  | [] => true
  | (name, e) :: r => decide (IsName name) && e.isPlain && arePlain r
end

/-- A file system without links. -/
def Plain (files : Files) : Prop := files.top.isPlain = true

instance (files : Files) : Decidable files.Plain := inferInstanceAs (Decidable (_ = true))

theorem arePlain_iff {entries : List (String × Entry)} :
    arePlain entries = true ↔ ∀ e ∈ entries, IsName e.1 ∧ e.2.isPlain = true := by
  induction entries with
  | nil => simp [arePlain]
  | cons e entries ih =>
    obtain ⟨name, e⟩ := e
    rw [arePlain, Bool.and_eq_true, Bool.and_eq_true, decide_eq_true_iff, ih,
      List.forall_mem_cons]

theorem isPlain_dir {entries : List (String × Entry)} :
    (Entry.dir entries).isPlain = true ↔ ∀ e ∈ entries, IsName e.1 ∧ e.2.isPlain = true := by
  rw [Entry.isPlain, arePlain_iff]

theorem mem_of_named? {name : String} {entries : List (String × Entry)} {e : Entry}
    (h : named? name entries = some e) : ∃ n, (n, e) ∈ entries := by
  obtain ⟨p, hp, rfl⟩ := Option.map_eq_some_iff.mp h
  exact ⟨p.1, List.mem_of_find?_eq_some hp⟩

theorem isPlain_below? {l : Location} {e below : Entry} (he : e.isPlain = true)
    (h : e.below? l = some below) : below.isPlain = true := by
  induction l generalizing e with
  | nil =>
    cases h
    exact he
  | cons name l ih =>
    cases e with
    | file content => cases h
    | link target => cases h
    | dir entries =>
      obtain ⟨next, hnext, hbelow⟩ := Option.bind_eq_some_iff.mp h
      obtain ⟨n, hmem⟩ := mem_of_named? hnext
      exact ih (isPlain_dir.mp he _ hmem).2 hbelow

theorem Plain.isPlain_entryAt? {files : Files} (h : files.Plain) {l : Location} {e : Entry}
    (he : files.entryAt? l = some e) : e.isPlain = true :=
  isPlain_below? h he

/-! ### Where components lead -/

/-- Where a component leads from a place. -/
def move (here : Location) : Path.Component → Location
  | .root => []
  | .here => here
  | .up => here.dropLast
  | .name text => here ++ [text]

/-- Where the components of a path lead. -/
def place (files : Files) (p : Path) : Location := p.components.foldl move files.current

theorem foldl_move_names (here : Location) (names : List String) :
    (names.map Path.Component.name).foldl move here = here ++ names := by
  induction names generalizing here with
  | nil => exact (List.append_nil _).symm
  | cons name names ih =>
    rw [List.map_cons, List.foldl_cons, ih, move, List.append_assoc]
    rfl

/-- A path that goes on with names leads to a place below. -/
theorem place_of_extends {files : Files} {p q : Path} {names : List String}
    (h : Path.Extends p q names) : files.place q = files.place p ++ names := by
  unfold place
  rw [h, List.foldl_append, foldl_move_names]

/-- The component of a piece leads where the walk goes: nowhere for an empty piece and a dot. -/
theorem foldl_move_ofPiece? (first : Bool) (piece : List Char) (here : Location) :
    (Path.Component.ofPiece? first piece).toList.foldl move here =
      if piece = [] ∨ piece = ['.'] then here
      else if piece = ['.', '.'] then here.dropLast
      else here ++ [String.ofList piece] := by
  unfold Path.Component.ofPiece?
  split
  · rfl
  · cases first <;> rfl
  · rfl
  · next hnil hdot hup =>
    rw [if_neg (not_or.mpr ⟨hnil, hdot⟩), if_neg hup]
    rfl

/-- Without links a walk that comes to an end goes on from where the first component leads. -/
theorem walkPieces_step {files : Files} (hplain : files.Plain) {followLast : Bool}
    {again : Location → List (List Char) → Except FileFault Location} {here l : Location}
    {piece : List Char} {ps : List (List Char)} (first : Bool)
    (h : walkPieces files followLast again here (piece :: ps) = .ok l) :
    walkPieces files followLast again
      ((Path.Component.ofPiece? first piece).toList.foldl move here) ps = .ok l := by
  rw [foldl_move_ofPiece?]
  unfold walkPieces at h
  cases hentry : files.entryAt? here with
  | none => simp [hentry] at h
  | some e =>
    cases e with
    | file content => simp [hentry] at h
    | link target => cases hplain.isPlain_entryAt? hentry
    | dir entries =>
      simp only [hentry] at h
      by_cases hstay : piece = [] ∨ piece = ['.']
      · rw [if_pos hstay] at h ⊢
        exact h
      · rw [if_neg hstay] at h ⊢
        by_cases hup : piece = ['.', '.']
        · rw [if_pos hup] at h ⊢
          exact h
        · rw [if_neg hup] at h ⊢
          split at h
          · cases h
          · split at h
            · cases h
            · next target hlink =>
              obtain ⟨n, hmem⟩ := mem_of_named? hlink
              cases (isPlain_dir.mp (hplain.isPlain_entryAt? hentry) _ hmem).2
            · exact h

/-- Without links a walk that comes to an end ends where the components lead. -/
theorem walkPieces_eq_ok {files : Files} (hplain : files.Plain) {followLast : Bool}
    {again : Location → List (List Char) → Except FileFault Location} {here l : Location}
    {ps : List (List Char)} (first : Bool)
    (h : walkPieces files followLast again here ps = .ok l) :
    l = (ofPieces first ps).foldl move here := by
  induction ps generalizing here first with
  | nil => exact (Except.ok.inj h).symm
  | cons piece ps ih =>
    rw [ofPieces, List.foldl_append]
    exact ih false (walkPieces_step hplain first h)

theorem start_eq (files : Files) (p : Path) :
    files.start p.text.toList =
      (if p.isAbsolute then [Path.Component.root] else []).foldl move files.current := by
  unfold start Path.isAbsolute Path.isAbsoluteText
  by_cases h : p.text.toList.head? = some '/'
  · simp [h, move]
  · simp [h]

/-- **Without links a path leads where its components say, if it leads anywhere.** -/
theorem locate_eq_ok {files : Files} (hplain : files.Plain) {followLast : Bool} {p : Path}
    {l : Location} (h : files.locate followLast p = .ok l) : l = files.place p := by
  unfold locate at h
  simp only at h
  split at h
  · cases h
  · split at h
    · cases h
    · split at h
      · cases h
      · rw [place, Path.components_eq, List.foldl_append, ← start_eq]
        exact walkPieces_eq_ok hplain _ h

/-! ### The path of a place -/

theorem ofPieces_intercalate {l : Location} (h : ∀ name ∈ l, IsName name) :
    ofPieces false (Text.pieces (· == '/') ("/".intercalate l).toList) =
      l.map Path.Component.name := by
  induction l with
  | nil => rfl
  | cons name l ih =>
    have hname := Path.ofPieces_name (h name List.mem_cons_self) false
    have hl := ih fun n hn => h n (List.mem_cons_of_mem _ hn)
    cases l with
    | nil => simpa using hname
    | cons next l =>
      have htext : ("/".intercalate (name :: next :: l)).toList =
          name.toList ++ '/' :: ("/".intercalate (next :: l)).toList := by
        rw [String.intercalate_cons_cons, String.toList_append, String.toList_append,
          List.append_assoc]
        rfl
      rw [htext, Text.pieces_append_cut rfl, Path.ofPieces_append (Text.pieces_ne_nil _ _),
        hname, hl]
      rfl

/-- The path of a place spells its names. -/
theorem components_pathOf {l : Location} (h : ∀ name ∈ l, IsName name) :
    (pathOf l).components = .root :: l.map Path.Component.name := by
  have htext : (pathOf l).text.toList = '/' :: ("/".intercalate l).toList := by
    rw [pathOf, String.toList_append]
    rfl
  have habsolute : (pathOf l).isAbsolute = true := by
    rw [Path.isAbsolute, htext]
    rfl
  have hpieces : Text.pieces (· == '/') (pathOf l).text.toList =
      [] :: Text.pieces (· == '/') ("/".intercalate l).toList := by
    rw [htext, ← List.nil_append ('/' :: _), Text.pieces_append_cut rfl]
    rfl
  rw [Path.components_eq, habsolute, hpieces, ofPieces, ofPieces_intercalate h]
  rfl

/-! ### Files and directories -/

theorem exists_locate_of_lookup {files : Files} {p : Path} {e : Entry}
    (h : files.lookup p = .ok e) : ∃ l, files.locate true p = .ok l ∧ files.entryAt? l = some e := by
  unfold lookup at h
  cases hl : files.locate true p with
  | error fault => simp [hl, bind, Except.bind] at h
  | ok l =>
    refine ⟨l, rfl, ?_⟩
    cases he : files.entryAt? l with
    | none => simp [hl, he, bind, Except.bind] at h
    | some entry => simpa [hl, he, bind, Except.bind] using h

theorem exists_locate_of_isFile {files : Files} {p : Path} (h : files.isFile p = true) :
    ∃ l, files.locate true p = .ok l := by
  unfold isFile at h
  split at h
  · next content hlookup =>
    obtain ⟨l, hl, -⟩ := exists_locate_of_lookup hlookup
    exact ⟨l, hl⟩
  · cases h

theorem exists_locate_of_isDir {files : Files} {p : Path} (h : files.isDir p = true) :
    ∃ l, files.locate true p = .ok l := by
  unfold isDir at h
  split at h
  · next entries hlookup =>
    obtain ⟨l, hl, -⟩ := exists_locate_of_lookup hlookup
    exact ⟨l, hl⟩
  · cases h

/-! ### Walking a directory -/

mutual
/-- What is found below an entry has the path of the entry and names behind it. -/
theorem extends_of_mem_walk : ∀ (e : Entry) (path : Path), e.isPlain = true →
    ∀ p ∈ e.walk path, ∃ names, Path.Extends path p names
  | .file _, path, _, p, hp => by
    rw [List.mem_singleton.mp hp]
    exact ⟨[], Path.extends_nil path⟩
  | .link _, _, hplain, _, _ => by cases hplain
  | .dir entries, path, hplain, p, hp => extends_of_mem_walkEntries entries path hplain p hp

theorem extends_of_mem_walkEntries : ∀ (entries : List (String × Entry)) (path : Path),
    arePlain entries = true →
    ∀ p ∈ walkEntries path entries, ∃ names, Path.Extends path p names
  | [], _, _, _, hp => by cases hp
  | (name, e) :: entries, path, hplain, p, hp => by
    rw [arePlain, Bool.and_eq_true, Bool.and_eq_true, decide_eq_true_iff] at hplain
    obtain ⟨⟨hname, he⟩, hentries⟩ := hplain
    rcases List.mem_append.mp hp with hp | hp
    · obtain ⟨names, hnames⟩ := extends_of_mem_walk e _ he p hp
      exact ⟨name :: names, Path.extends_of_join hname hnames⟩
    · exact extends_of_mem_walkEntries entries path hentries p hp
end

theorem of_mem_filesBelow {files : Files} (hplain : files.Plain) {dir p : Path}
    (h : p ∈ files.filesBelow dir) : files.isFile p = true ∧ ∃ names, Path.Extends dir p names := by
  unfold filesBelow at h
  cases hlookup : files.lookup dir with
  | error fault => simp [hlookup] at h
  | ok e =>
    simp only [hlookup] at h
    obtain ⟨hwalk, hfile⟩ := List.mem_filter.mp h
    obtain ⟨l, -, he⟩ := exists_locate_of_lookup hlookup
    exact ⟨hfile, extends_of_mem_walk e dir (hplain.isPlain_entryAt? he) p hwalk⟩

/-- An input that leads somewhere stands for files with the components of the input and names
behind them. -/
theorem Finder.of_mem_ofInput {finder : Finder} {files : Files} (hplain : files.Plain)
    {input p : Path} (h : p ∈ finder.ofInput files input) :
    (∃ l, files.locate true input = .ok l) ∧ files.isFile p = true ∧
      ∃ names, Path.Extends input p names := by
  unfold Finder.ofInput at h
  split at h
  · next hfile =>
    obtain rfl := List.mem_singleton.mp (List.mem_filter.mp h).1
    exact ⟨exists_locate_of_isFile hfile, hfile, [], Path.extends_nil p⟩
  · split at h
    · next hdir =>
      exact ⟨exists_locate_of_isDir hdir, of_mem_filesBelow hplain (List.mem_filter.mp h).1⟩
    · cases h

end SopDocs.Files
