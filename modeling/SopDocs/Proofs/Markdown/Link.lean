import SopDocs.Proofs.Markdown.Destination
import SopDocs.Proofs.Markdown.FirstPiece
import SopDocs.Proofs.Markdown.Label
import SopDocs.Proofs.Markdown.Paragraph

/-!
# Links that are read as they are written

A label and a target with the marks of a link around them are one line, and that line is a
paragraph. Where the label is read as it is written, the paragraph starts with a link or it starts
with text: which of them depends on the target alone. The link has the target that was written
exactly if the target is its own destination.
-/

namespace SopDocs.Markdown

open SopDocs.Tree (Node)

/-! ### Reading the text of a link -/

section Reading

variable {scope : Scope} {opening bracket paren g : Glyph} {label rest r : List Glyph}

theorem readOne_opening {state : Reading} (hg : g.char = '[')
    (hr : r.head?.map (·.char) ≠ some '^') :
    readOne scope state g r = (state.openLabel .link [g], r) := by
  unfold readOne
  rw [show g.isEnd = false by simp [Glyph.isEnd, hg]]
  cases r with
  | nil => simp [hg, isEmphasisMark]
  | cons i t => simp [hg, isEmphasisMark, show i.char ≠ '^' by simpa using hr]

theorem readOne_closing {state : Reading} (hg : g.char = ']') :
    readOne scope state g r = closeLabel scope state g r := by
  unfold readOne
  rw [show g.isEnd = false by simp [Glyph.isEnd, hg]]
  simp [hg, isEmphasisMark]

/-- Where nothing is defined, a label before a parenthesis is that of a link exactly if a target
follows. -/
theorem closing?_of_paren (hdefinitions : scope.definitions = []) (hparen : paren.char = '(')
    (key : List Char) :
    closing? scope key (paren :: r) = (resource? r).map fun p => (key, some p.1, p.2) := by
  unfold closing?
  simp only [hdefinitions, hparen]
  cases resource? r with
  | none => rfl
  | some p => rfl

/-- The reading when all but the closing bracket of a label is read. -/
def labelRead (opening : Glyph) (ps : List Piece) (last : Option Char) : Reading :=
  ⟨[⟨.link, [opening], [], true⟩], ps.reverse, last⟩

/-- An element for a link that shows a text. -/
def IsLink (e : Element) (target : String × Option String) (text : List Char) : Prop :=
  e.content = .link target.1 target.2 ∧ ∃ start stop, e.children = [textElement text start stop]

section Text

variable {ps : List Piece} {last : Option Char} {target : String × Option String}
  {after : List Glyph}
variable (hopening : opening.char = '[') (hbracket : bracket.char = ']') (hparen : paren.char = '(')
  (hown : OwnLabel (label.map (·.char))) (hfollows : Follows '[' label)
  (hdefinitions : scope.definitions = [])

include hopening hbracket hown hfollows in
/-- A label is read up to its closing bracket, as pieces that show it. -/
theorem readAll_label {fuel : Nat}
    (hfuel : (opening :: (label ++ bracket :: rest)).length ≤ fuel) :
    ∃ ps fuel' last, Shows ps label ∧
      readAll scope fuel .start (opening :: (label ++ bracket :: rest)) =
        readAll scope fuel' (closeLabel scope (labelRead opening ps last) bracket rest).1
          (closeLabel scope (labelRead opening ps last) bracket rest).2 := by
  have hcaret : (label ++ bracket :: rest).head?.map (·.char) ≠ some '^' := by
    cases label with
    | nil => simp [hbracket]
    | cons i t => simpa using hown.link
  cases fuel with
  | zero => simp at hfuel
  | succ fuel =>
    have hprevious : (Reading.start.openLabel .link [opening]).previous = some '[' := by
      rw [← hopening]
      rfl
    obtain ⟨ps, fuel', last, hshows, hleft, hread⟩ := @readAll_plain scope
      (Reading.start.openLabel .link [opening]) '[' bracket rest hbracket fuel label
      (Nat.le_of_succ_le_succ hfuel) hprevious hfollows hown.plain fun h => absurd h (by decide)
    cases fuel' with
    | zero => simp at hleft
    | succ fuel' =>
      refine ⟨ps, fuel', last, hshows, ?_⟩
      rw [readAll, readOne_opening hopening hcaret]
      refine hread.trans ?_
      rw [readAll, readOne_closing hbracket]
      simp only [Reading.openLabel, Reading.start, List.append_nil]
      rfl

theorem isLink_labelElement (hshows : Shows ps label) (hplain : ArePlain label) (hne : label ≠ [])
    (start stop : Nat) (key : List Char) :
    IsLink (labelElement ⟨.link, [opening], [], true⟩ ps.reverse start stop key (some target))
      target (label.map (·.char)) := by
  refine ⟨rfl, startOf 0 label, stopOf 0 label, ?_⟩
  rw [← textOf_plain hplain, ← phrase_of_shows hshows hne]
  simp [labelElement]

include hparen hdefinitions in
/-- With a target after it the label is that of a link. -/
theorem closeLabel_of_some (hshows : Shows ps label) (hplain : ArePlain label) (hne : label ≠ [])
    (h : resource? rest = some (target, after)) :
    ∃ e last', IsLink e target (label.map (·.char)) ∧
      closeLabel scope (labelRead opening ps last) bracket (paren :: rest) =
        (⟨[], [.element e], last'⟩, after) := by
  have hclosing := closing?_of_paren (r := rest) hdefinitions hparen
  unfold closeLabel labelRead
  simp only [hclosing, h]
  exact ⟨_, _, isLink_labelElement hshows hplain hne _ _ _, rfl⟩

include hparen hdefinitions in
/-- Without a target after it the label is text. -/
theorem closeLabel_of_none (h : resource? rest = none) :
    ∃ last', closeLabel scope (labelRead opening ps last) bracket (paren :: rest) =
      (⟨[], .data [bracket] :: (ps.reverse ++ [.data [opening]]), last'⟩, paren :: rest) := by
  have hclosing := closing?_of_paren (r := rest) hdefinitions hparen
  unfold closeLabel labelRead
  simp only [hclosing, h]
  exact ⟨_, rfl⟩

include hopening hbracket hparen hown hfollows hdefinitions

/-- The text of a link whose target ends with it is that link. -/
theorem inline_of_end (trims : Bool) (hne : label ≠ []) (h : resource? rest = some (target, [])) :
    ∃ e, IsLink e target (label.map (·.char)) ∧
      inline scope trims (opening :: (label ++ bracket :: paren :: rest)) = [e] := by
  obtain ⟨ps, fuel, last, hshows, hread⟩ := @readAll_label scope opening bracket label
    (paren :: rest) hopening hbracket hown hfollows _ (Nat.le_refl _)
  obtain ⟨e, last', he, hclose⟩ := @closeLabel_of_some scope opening bracket paren label rest ps
    last target [] hparen hdefinitions hshows hfollows.plain hne h
  have hend : readAll scope fuel ⟨[], [.element e], last'⟩ [] = ⟨[], [.element e], last'⟩ := by
    cases fuel <;> rfl
  refine ⟨e, he, ?_⟩
  rw [inline, hread, hclose, hend]
  rfl

/-- The text of a link starts with that link, whatever follows its target. -/
theorem inline_of_some (trims : Bool) (hne : label ≠ []) (h : resource? rest = some (target, after)) :
    ∃ e, IsLink e target (label.map (·.char)) ∧
      (inline scope trims (opening :: (label ++ bracket :: paren :: rest))).head? = some e := by
  obtain ⟨ps, fuel, last, hshows, hread⟩ := @readAll_label scope opening bracket label
    (paren :: rest) hopening hbracket hown hfollows _ (Nat.le_refl _)
  obtain ⟨e, last', he, hclose⟩ := @closeLabel_of_some scope opening bracket paren label rest ps
    last target after hparen hdefinitions hshows hfollows.plain hne h
  have hrooted : Rooted [.element e] ⟨[], [.element e], last'⟩ := List.suffix_rfl
  obtain ⟨front, hflat⟩ := (readAll_rooted hrooted fuel after).flat
  refine ⟨e, he, ?_⟩
  rw [inline, hread, hclose, finish_eq, ← hflat, List.reverse_append]
  exact phrase_element true true trims e _

/-- A text that only starts as a link does starts with text. -/
theorem inline_of_none (trims : Bool) (h : resource? rest = none) :
    ∃ e value, e.content = .text value ∧
      (inline scope trims (opening :: (label ++ bracket :: paren :: rest))).head? = some e := by
  obtain ⟨ps, fuel, last, -, hread⟩ := @readAll_label scope opening bracket label
    (paren :: rest) hopening hbracket hown hfollows _ (Nat.le_refl _)
  obtain ⟨last', hclose⟩ := @closeLabel_of_none scope opening bracket paren rest ps last hparen
    hdefinitions h
  have hrooted : Rooted [.data [opening]]
      ⟨[], .data [bracket] :: (ps.reverse ++ [.data [opening]]), last'⟩ :=
    ⟨.data [bracket] :: ps.reverse, rfl⟩
  obtain ⟨front, hflat⟩ := (readAll_rooted hrooted fuel (paren :: rest)).flat
  rw [inline, hread, hclose, finish_eq, ← hflat, List.reverse_append]
  obtain ⟨e, hhead, value, hvalue⟩ := @phrase_text opening [opening] true true trims rfl
    (by rw [hopening]; rfl) (by simp [Glyph.isSpace, hopening]) front.reverse
  exact ⟨e, value, hvalue, hhead⟩

end Text

/-! ### A link is no definition -/

/-- A label ends at the first bracket, if it holds none and escapes none. -/
theorem rest_of_labelText? (hbracket : bracket.char = ']') {b : Char} {seen : Bool}
    {text : List Glyph} (hlabel : ∀ g ∈ label, g.char ≠ '[' ∧ g.char ≠ ']')
    (hescapes : EscapeFree (b :: (label.map (·.char) ++ [']'])))
    (h : labelText? (b == '\\') seen (label ++ bracket :: rest) = some (text, r)) : r = rest := by
  induction label generalizing b seen text with
  | nil =>
    have hb : (b == '\\') = false := by
      rw [beq_eq_false_iff_ne]
      intro h
      exact absurd ((escapeFree_cons.mp hescapes).1 h ']' rfl) (by decide)
    rw [List.nil_append, labelText?] at h
    simp only at h
    rw [if_neg (by simp [hb]), if_neg (by simp [hbracket]), if_pos (by simp [hbracket])] at h
    split at h
    · exact (Prod.mk.inj (Option.some.inj h)).2.symm
    · cases h
  | cons g label ih =>
    obtain ⟨⟨hopen, hclose⟩, hlabel⟩ := List.forall_mem_cons.mp hlabel
    obtain ⟨hb, hescapes⟩ := escapeFree_cons.mp hescapes
    have hplain : ¬ (b == '\\' && (g.char == '[' || g.char == ']' || g.char == '\\')) = true := by
      rw [Bool.and_eq_true, beq_iff_eq]
      rintro ⟨hslash, hchar⟩
      have hnot := hb hslash g.char rfl
      simp only [Bool.or_eq_true, beq_iff_eq, hopen, hclose, false_or] at hchar
      rw [hchar] at hnot
      cases hnot
    rw [List.cons_append, labelText?] at h
    simp only at h
    rw [if_neg hplain, if_neg (by simpa using hopen), if_neg (by simpa using hclose)] at h
    obtain ⟨⟨text', r'⟩, hread, heq⟩ := Option.map_eq_some_iff.mp h
    obtain ⟨rfl, rfl⟩ := Prod.mk.inj heq
    exact ih hlabel hescapes hread

theorem definition?_of_link (hopening : opening.char = '[') (hbracket : bracket.char = ']')
    (hparen : paren.char = '(') (hown : OwnLabel (label.map (·.char))) :
    definition? (opening :: (label ++ bracket :: paren :: rest)) = none := by
  have hskip : skipSpaces (opening :: (label ++ bracket :: paren :: rest)) =
      opening :: (label ++ bracket :: paren :: rest) :=
    List.dropWhile_cons_of_neg (by simp [Glyph.isSpace, hopening])
  have hmarks : ∀ g ∈ label, g.char ≠ '[' ∧ g.char ≠ ']' := by
    intro g hg
    have hmark := (hown.plain.unmarked g.char (List.mem_map_of_mem hg)).1
    constructor <;> intro h <;> rw [h] at hmark <;> cases hmark
  have hescapes : EscapeFree ('[' :: (label.map (·.char) ++ [']'])) :=
    escapeFree_cons.mpr ⟨fun h => absurd h (by decide), hown.plain.escapes⟩
  unfold definition?
  rw [hskip]
  simp only [definition?.after?, hopening, beq_self_eq_true, if_true, Option.bind_eq_bind,
    Option.bind_some]
  cases hlabel : label? (label ++ bracket :: paren :: rest) with
  | none => rfl
  | some p =>
    have hr : p.2 = paren :: rest := rest_of_labelText? hbracket hmarks hescapes
      (Option.filter_eq_some_iff.mp hlabel).1
    simp [hr, hparen]

end Reading

/-! ### The document of a link -/

/-- A document that is one paragraph with nothing in it but a link that shows a text. -/
def IsLinkDocument (root : Node) (target text : String) : Prop :=
  ∃ paragraph link, root.children = [paragraph] ∧ paragraph.kind = .paragraph ∧
    paragraph.children = [link] ∧ link.kind = .link ∧ link.target = some target ∧
      link.plainText = text ∧ root.findAll .link = [link]

/-- The node of a link that shows a text. -/
theorem node_link (definitions : List Definition) (url : String) (title : Option String)
    (span : Tree.Span) (text : List Char) (start stop : Nat) :
    Element.node definitions ⟨.link url title, span, [textElement text start stop]⟩ =
      ⟨.link, span, none, .link url title,
        [⟨.str, ⟨start, stop⟩, some (String.ofList text), .none, []⟩]⟩ := by
  rw [Element.node_eq, List.map_singleton, textElement, Element.node_eq]
  rfl

theorem isLinkDocument_of_node {source : Tree.Span} {span span' : Tree.Span} {url text : String}
    {title : Option String} {start stop : Nat} :
    IsLinkDocument ⟨.document, source, none, .none, [⟨.paragraph, span, none, .none,
      [⟨.link, span', none, .link url title, [⟨.str, ⟨start, stop⟩, some text, .none, []⟩]⟩]⟩]⟩
      url text := by
  refine ⟨_, _, rfl, rfl, rfl, rfl, rfl, ?_, ?_⟩
  · simp [Node.plainText, Node.plainTexts]
  · simp [Node.findAll, Node.descendants, Node.withDescendants]

/-- No label has line ends or tabs. -/
theorem tabless_of_own {label : List Char} (h : OwnLabel label) : Tabless label := by
  have hne : ∀ {d : Char}, isControl d = true → ∀ c ∈ label, c ≠ d := by
    intro d hd c hc heq
    have hcontrol := (h.plain.unmarked c hc).2
    rw [heq, hd] at hcontrol
    cases hcontrol
  exact ⟨fun c hc => ⟨hne (by decide) c hc, hne (by decide) c hc⟩,
    fun hmem => hne (by decide) '\t' hmem rfl⟩

theorem tabless_append {a b : List Char} (ha : Tabless a) (hb : Tabless b) : Tabless (a ++ b) :=
  ⟨List.forall_mem_append.mpr ⟨ha.1, hb.1⟩, fun h => (List.mem_append.mp h).elim ha.2 hb.2⟩

section Document

variable {source : String} {label target : List Char}

/-- The source of a link is one paragraph, with the glyphs of the link as its text. -/
theorem exists_paragraph (hsource : source.toList = '[' :: (label ++ ']' :: '(' :: (target ++ [')'])))
    (hown : OwnLabel label) (htarget : Tabless target) :
    ∃ definitions opening bracket paren close gl gt, gl.map Glyph.char = label ∧
      gt.map Glyph.char = target ∧ opening.char = '[' ∧ bracket.char = ']' ∧ paren.char = '(' ∧
      close.char = ')' ∧ Follows '[' gl ∧ ArePlain (gt ++ [close]) ∧
      parse source = ⟨.document, ⟨0, source.utf8ByteSize⟩, none, .none,
        [paragraphNode source definitions
          (opening :: (gl ++ bracket :: paren :: (gt ++ [close])))]⟩ := by
  have hmarks : ∀ marks ∈ [['['], [']', '('], [')']], Tabless marks := by
    unfold Tabless
    decide
  have htabless : Tabless source.toList := by
    rw [hsource]
    exact tabless_append (hmarks ['['] (by simp)) (tabless_append (tabless_of_own hown)
      (tabless_append (hmarks [']', '('] (by simp))
        (tabless_append htarget (hmarks [')'] (by simp)))))
  rw [hsource] at htabless
  obtain ⟨gs, stop, hlines, hchars, hfollows⟩ := sourceLines_tabless htabless (by decide)
  obtain ⟨opening, _, rfl, hopening, hlabel⟩ := List.map_eq_cons_iff.mp hchars
  obtain ⟨gl, _, rfl, rfl, hclosing⟩ := List.map_eq_append_iff.mp hlabel
  obtain ⟨bracket, _, rfl, hbracket, hopened⟩ := List.map_eq_cons_iff.mp hclosing
  obtain ⟨paren, _, rfl, hparen, hafter⟩ := List.map_eq_cons_iff.mp hopened
  obtain ⟨gt, _, rfl, rfl, hclosed⟩ := List.map_eq_append_iff.mp hafter
  obtain ⟨close, _, rfl, hclose, hend⟩ := List.map_eq_cons_iff.mp hclosed
  obtain rfl := List.map_eq_nil_iff.mp hend
  have htext : StartsText (opening :: (gl ++ bracket :: paren :: (gt ++ [close]))) := by
    refine ⟨opening, _, rfl, .inr ⟨hopening, ?_⟩⟩
    cases gl with
    | nil => simp [hbracket]
    | cons i t => simpa using hown.link
  have hblocks := blocksOf_line (hsource ▸ hlines) htext
    (definition?_of_link hopening hbracket hparen hown)
  obtain ⟨definitions, hparse⟩ := parse_paragraph hblocks htext.ne_nil
  refine ⟨definitions, opening, bracket, paren, close, gl, gt, rfl, rfl, hopening, hbracket, hparen,
    hclose, ?_, ?_, hparse⟩
  · cases hfollows with
    | cons _ _ _ hrest => exact hopening ▸ hrest.left
  · intro g hg
    refine hfollows.plain g ?_
    simp only [List.mem_cons, List.mem_append, List.not_mem_nil, or_false] at hg ⊢
    tauto

/-- **A label and a target with the marks of a link around them are that link exactly if the target
is its own destination**, where the label is read as it is written. -/
theorem isLinkDocument_iff
    (hsource : source.toList = '[' :: (label ++ ']' :: '(' :: (target ++ [')'])))
    (hown : OwnLabel label) (hlabel : label ≠ []) (htarget : target ≠ [])
    (htabless : Tabless target) :
    IsLinkDocument (parse source) (String.ofList target) (String.ofList label) ↔
      OwnDestination target := by
  obtain ⟨definitions, opening, bracket, paren, close, gl, gt, rfl, rfl, hopening, hbracket, hparen,
    hclose, hfollows, hplain, hparse⟩ := exists_paragraph hsource hown htabless
  replace hlabel : gl ≠ [] := by simpa using hlabel
  replace htarget : gt ≠ [] := by simpa using htarget
  let scope : Scope := ⟨source.toList, [], [], false⟩
  have hdefinitions : scope.definitions = [] := rfl
  rw [hparse]
  constructor
  · rintro ⟨paragraph, link, hroot, -, hlink, hkind, hurl, -, -⟩
    obtain rfl : _ = paragraph := (List.cons.inj hroot).1
    have hfirst : ∀ e, (inline scope true
        (opening :: (gl ++ bracket :: paren :: (gt ++ [close])))).head? = some e →
          e.node definitions = link := by
      intro e he
      have hhead := congrArg List.head? hlink
      rw [paragraphNode, List.head?_map, he] at hhead
      exact Option.some.inj hhead
    cases hresource : resource? (gt ++ [close]) with
    | none =>
      obtain ⟨e, value, hvalue, he⟩ :=
        inline_of_none hopening hbracket hparen hown hfollows hdefinitions true hresource
      rw [← hfirst e he, Element.node_eq, hvalue] at hkind
      cases hkind
    | some p =>
      obtain ⟨⟨url, title⟩, after⟩ := p
      obtain ⟨e, ⟨hcontent, -⟩, he⟩ :=
        inline_of_some hopening hbracket hparen hown hfollows hdefinitions true hlabel hresource
      rw [← hfirst e he, Element.node_eq, hcontent] at hurl
      obtain rfl : url = String.ofList (gt.map (·.char)) := Option.some.inj hurl
      exact own_of_resource? hclose hplain htarget hresource
  · intro hdestination
    have hresource := resource?_of_own hclose htarget (arePlain_append.mp hplain).1 hdestination
    obtain ⟨⟨content, span, children⟩, ⟨rfl, start, stop, rfl⟩, hinline⟩ :=
      inline_of_end hopening hbracket hparen hown hfollows hdefinitions true hlabel hresource
    rw [paragraphNode, hinline, List.map_singleton, node_link]
    exact isLinkDocument_of_node

end Document

end SopDocs.Markdown
