import Mathlib.Data.List.Nodup
import SopDocs.Proofs.Exchange
import SopDocs.Proofs.Review.Entry

/-!
# The listing of open issues page by page

Pages are asked for in turn, up to the first one that is not full. Whether a page is full is told
by all its entries, pull requests included, and pull requests are left out only of what is
returned. So a page full of pull requests does not end the listing, and a list whose length is a
multiple of the page size is ended by an empty page. A page that cannot be read ends the listing
without any issue.

The pages are numbered by words. The statements hold of any number of pages that may be asked for,
and so of the greatest one.
-/

namespace SopDocs.Review.Tracker

open Web (Request Response Transport Url)

variable {tracker : Tracker} {transport : Transport} {url : Url} {label : String}

/-! ### One page -/

/-- The request for a page of a hundred open entries with a label. -/
def pageRequest (tracker : Tracker) (url : Url) (label : String) (number : Nat) : Request where
  method := .get
  url := (((url.addParameter "state" "open").addParameter "labels" label).addParameter
    "per_page" "100").addParameter "page" (toString number)
  accept := "application/vnd.github+json"
  authorization := some ("Bearer " ++ tracker.token)
  body := none

theorem request_eq_pageRequest (tracker : Tracker) (url : Url) (label : String) (number : Nat) :
    tracker.request .get (pageUrl url label number) none =
      tracker.pageRequest url label number := rfl

theorem formEncode_of_isDigit {s : List Char} (h : ∀ c ∈ s, c.isDigit = true) :
    Web.formEncode s = s := by
  induction s with
  | nil => rfl
  | cons c s ih =>
    obtain ⟨hc, hs⟩ := List.forall_mem_cons.mp h
    have hne : (c == ' ') = false := by
      rw [beq_eq_false_iff_ne]
      rintro rfl
      cases hc
    have hascii : c.toNat < 0x80 := by
      simp only [Char.isDigit, Bool.and_eq_true, decide_eq_true_eq] at hc
      exact Nat.lt_of_le_of_lt (UInt32.le_iff_toNat_le.mp hc.2) (by decide)
    have hplain : c.isAlphanum = true := by simp [Char.isAlphanum, hc]
    rw [Web.formEncode, List.flatMap_cons, hne, hplain, ← Web.formEncode, ih hs]
    simp [hascii]

/-- Requests for different pages are different. -/
theorem pageRequest_inj {number other : Nat}
    (h : tracker.pageRequest url label number = tracker.pageRequest url label other) :
    number = other := by
  have hdigits : ∀ n : Nat, Web.formEncode (toString n).toList = Nat.toDigits 10 n := by
    intro n
    rw [Nat.toString_eq_repr, Nat.toList_repr]
    exact formEncode_of_isDigit fun c hc => Nat.isDigit_of_mem_toDigits (by decide) (by decide) hc
  have hpair : ∀ {u : Url}, u.addParameter "page" (toString number) =
      u.addParameter "page" (toString other) → Nat.toDigits 10 number = Nat.toDigits 10 other := by
    intro u hu
    have hquery := Option.some.inj (congrArg Url.query hu)
    rw [hdigits, hdigits] at hquery
    have hcut : ∀ {a b : List Char}, Web.formEncode "page".toList ++ '=' :: a =
        Web.formEncode "page".toList ++ '=' :: b → a = b := fun hab =>
      (List.cons.inj (List.append_cancel_left hab)).2
    cases hq : u.query with
    | none => exact hcut (by simpa only [hq] using hquery)
    | some q =>
      cases q with
      | nil => exact hcut (by simpa only [hq] using hquery)
      | cons c q =>
        rw [hq] at hquery
        exact hcut (List.cons.inj (List.append_cancel_left hquery)).2
  have hvalue := congrArg (Nat.ofDigitChars 10 · 0) (hpair (congrArg Request.url h))
  simpa using hvalue

/-- A page is what the response to its request comes to, if there is one. -/
theorem page_eq (number : Nat) :
    tracker.page transport url label number =
      ⟨(Web.send transport (tracker.pageRequest url label number)).requests,
        match (Web.send transport (tracker.pageRequest url label number)).result with
        | .error fault => .error (.network fault)
        | .ok response => reply readItems? (pageUrl url label number) response⟩ := by
  rw [page, request_eq_pageRequest]
  exact ask_eq transport (tracker.pageRequest url label number) readItems?

theorem page_of_answer {number : Nat} {response : Response} {items : List Item}
    (hanswer : transport (tracker.pageRequest url label number) = some response)
    (hsuccess : Web.isSuccess response.status = true)
    (hitems : readItems? response.body = some items) :
    tracker.page transport url label number =
      ⟨[tracker.pageRequest url label number], .ok items⟩ := by
  rw [page_eq, Web.send_of_isSuccess hanswer hsuccess]
  simp only [reply, hsuccess, hitems, if_true]

/-! ### Turning pages -/

/-- The requests that the first `count` pages take, in their order. -/
def requestsTo (tracker : Tracker) (transport : Transport) (url : Url) (label : String)
    (count : Nat) : List Request :=
  (List.range' 1 count).flatMap fun number => (tracker.page transport url label number).requests

theorem requestsTo_succ (count : Nat) :
    tracker.requestsTo transport url label (count + 1) =
      tracker.requestsTo transport url label count ++
        (tracker.page transport url label (count + 1)).requests := by
  rw [requestsTo, List.range'_concat, List.flatMap_append, Nat.one_mul, Nat.add_comm 1 count,
    List.flatMap_singleton]
  rfl

/-- The first `count` pages are full and hold the entries. -/
inductive Turned (tracker : Tracker) (transport : Transport) (url : Url) (label : String) :
    Nat → List Item → Prop where
  | start : Turned tracker transport url label 0 []
  | turn {count : Nat} {items more : List Item}
      (hbefore : Turned tracker transport url label count items)
      (hpage : (tracker.page transport url label (count + 1)).result = .ok more)
      (hfull : 100 ≤ more.length) :
      Turned tracker transport url label (count + 1) (items ++ more)

variable {number count pages : Nat} {items more : List Item} {fault : TrackerFault}

/-- What is kept of the entries: all but the pull requests, in order. -/
theorem issuesOf_eq (items : List Item) :
    issuesOf items = (items.filter fun item => !item.isPullRequest).map (·.issue) := rfl

theorem issuesOf_append (items more : List Item) :
    issuesOf (items ++ more) = issuesOf items ++ issuesOf more := by
  simp only [issuesOf_eq, List.filter_append, List.map_append]

theorem issuesFrom_of_short
    (hpage : (tracker.page transport url label number).result = .ok more)
    (hshort : more.length < pageSize) :
    tracker.issuesFrom transport url label (pages + 1) number =
      ⟨(tracker.page transport url label number).requests, .ok (issuesOf more)⟩ := by
  rw [issuesFrom, Web.Exchange.andThen]
  simp only [hpage, hshort, if_true, Web.Exchange.done, List.append_nil]

theorem issuesFrom_of_error
    (hpage : (tracker.page transport url label number).result = .error fault) :
    tracker.issuesFrom transport url label (pages + 1) number =
      ⟨(tracker.page transport url label number).requests, .error fault⟩ := by
  rw [issuesFrom, Web.Exchange.andThen]
  simp only [hpage, Web.Exchange.done, List.append_nil]

theorem issuesFrom_of_full
    (hpage : (tracker.page transport url label number).result = .ok more)
    (hfull : pageSize ≤ more.length) :
    let rest := tracker.issuesFrom transport url label pages (number + 1)
    tracker.issuesFrom transport url label (pages + 1) number =
      ⟨(tracker.page transport url label number).requests ++ rest.requests,
        rest.result.map (issuesOf more ++ ·)⟩ := by
  intro rest
  rw [issuesFrom, Web.Exchange.andThen]
  simp only [hpage, Nat.not_lt.mpr hfull, if_false]
  rfl

theorem map_issuesOf_append (items more : List Item) (rest : Except TrackerFault (List Issue)) :
    (rest.map (issuesOf more ++ ·)).map (issuesOf items ++ ·) =
      rest.map (issuesOf (items ++ more) ++ ·) := by
  cases rest with
  | error fault => rfl
  | ok issues =>
    rw [issuesOf_append]
    exact congrArg Except.ok (List.append_assoc _ _ _).symm

/-- Behind full pages the listing goes on with the next page. -/
theorem issuesFrom_of_turned (h : Turned tracker transport url label count items) (pages : Nat) :
    let rest := tracker.issuesFrom transport url label pages (count + 1)
    tracker.issuesFrom transport url label (count + pages) 1 =
      ⟨tracker.requestsTo transport url label count ++ rest.requests,
        rest.result.map (issuesOf items ++ ·)⟩ := by
  induction h generalizing pages with
  | start =>
    intro rest
    rw [Nat.zero_add]
    change rest = ⟨rest.requests, rest.result.map id⟩
    cases hrest : rest.result <;> simp [Except.map, ← hrest]
  | @turn count items more _ hpage hfull ih =>
    intro rest
    have hstep := ih (pages + 1)
    rw [issuesFrom_of_full hpage hfull] at hstep
    rw [Nat.add_assoc, Nat.add_comm 1 pages, hstep, requestsTo_succ, List.append_assoc]
    simp only [map_issuesOf_append]
    rfl

/-- The listing ends at the first page that is not full. -/
theorem issuesFrom_of_turned_short (h : Turned tracker transport url label count items)
    (hpage : (tracker.page transport url label (count + 1)).result = .ok more)
    (hshort : more.length < pageSize) (hpages : count < pages) :
    tracker.issuesFrom transport url label pages 1 =
      ⟨tracker.requestsTo transport url label (count + 1), .ok (issuesOf (items ++ more))⟩ := by
  obtain ⟨left, rfl⟩ := Nat.exists_eq_add_of_lt hpages
  rw [Nat.add_assoc, issuesFrom_of_turned h, issuesFrom_of_short hpage hshort, requestsTo_succ,
    issuesOf_append]
  rfl

/-- The listing ends with its fault at the first page that cannot be read. -/
theorem issuesFrom_of_turned_error (h : Turned tracker transport url label count items)
    (hpage : (tracker.page transport url label (count + 1)).result = .error fault)
    (hpages : count < pages) :
    tracker.issuesFrom transport url label pages 1 =
      ⟨tracker.requestsTo transport url label (count + 1), .error fault⟩ := by
  obtain ⟨left, rfl⟩ := Nat.exists_eq_add_of_lt hpages
  rw [Nat.add_assoc, issuesFrom_of_turned h, issuesFrom_of_error hpage, requestsTo_succ]
  rfl

/-- Of the first pages either all are full or the full ones are followed by one that is short or
cannot be read. -/
theorem turned_or_ends (tracker : Tracker) (transport : Transport) (url : Url) (label : String)
    (pages : Nat) :
    (∃ items, Turned tracker transport url label pages items) ∨
      ∃ count items, count < pages ∧ Turned tracker transport url label count items ∧
        ((∃ more, (tracker.page transport url label (count + 1)).result = .ok more ∧
            more.length < 100) ∨
          ∃ fault, (tracker.page transport url label (count + 1)).result = .error fault) := by
  induction pages with
  | zero => exact .inl ⟨[], .start⟩
  | succ pages ih =>
    rcases ih with ⟨items, h⟩ | ⟨count, items, hcount, h, hend⟩
    · cases hpage : (tracker.page transport url label (pages + 1)).result with
      | error fault => exact .inr ⟨pages, items, Nat.lt_succ_self pages, h, .inr ⟨fault, hpage⟩⟩
      | ok more =>
        rcases Nat.lt_or_ge more.length 100 with hshort | hfull
        · exact .inr ⟨pages, items, Nat.lt_succ_self pages, h, .inl ⟨more, hpage, hshort⟩⟩
        · exact .inl ⟨items ++ more, h.turn hpage hfull⟩
    · exact .inr ⟨count, items, Nat.lt_succ_of_lt hcount, h, hend⟩

/-! ### A list that is served in pages -/

/-- Each page of a list is answered with a success whose body has the entries of the page. -/
def Serves (tracker : Tracker) (transport : Transport) (url : Url) (label : String)
    (items : List Item) : Prop :=
  ∀ before ≤ items.length / 100, ∃ response,
    transport (tracker.pageRequest url label (before + 1)) = some response ∧
      Web.isSuccess response.status = true ∧
      readItems? response.body = some ((items.drop (100 * before)).take 100)

theorem Serves.page_eq (h : Serves tracker transport url label items) {before : Nat}
    (hbefore : before ≤ items.length / 100) :
    tracker.page transport url label (before + 1) =
      ⟨[tracker.pageRequest url label (before + 1)],
        .ok ((items.drop (100 * before)).take 100)⟩ := by
  obtain ⟨response, hanswer, hsuccess, hitems⟩ := h before hbefore
  exact page_of_answer hanswer hsuccess hitems

theorem Serves.requestsTo_eq (h : Serves tracker transport url label items)
    (hcount : count ≤ items.length / 100 + 1) :
    tracker.requestsTo transport url label count =
      (List.range' 1 count).map (tracker.pageRequest url label) := by
  induction count with
  | zero => rfl
  | succ count ih =>
    rw [requestsTo_succ, ih (Nat.le_of_succ_le hcount), h.page_eq (Nat.le_of_succ_le_succ hcount),
      List.range'_concat, List.map_append, Nat.one_mul, Nat.add_comm 1 count]
    rfl

/-- All pages before the last one are full. -/
theorem Serves.turned (h : Serves tracker transport url label items)
    (hcount : count ≤ items.length / 100) :
    Turned tracker transport url label count (items.take (100 * count)) := by
  induction count with
  | zero => exact .start
  | succ count ih =>
    have hfull : 100 * (count + 1) ≤ items.length :=
      Nat.le_trans (Nat.mul_le_mul_left _ hcount) (Nat.mul_div_le _ _)
    have hpage := congrArg Web.Exchange.result (h.page_eq (Nat.le_of_succ_le hcount))
    have hturn := (ih (Nat.le_of_succ_le hcount)).turn hpage (by
      rw [List.length_take, List.length_drop]
      omega)
    rw [Nat.mul_succ, List.take_add]
    exact hturn

/-- A list that is served in pages is returned without its pull requests. -/
theorem Serves.issuesFrom_eq (h : Serves tracker transport url label items)
    (hpages : items.length / 100 < pages) :
    tracker.issuesFrom transport url label pages 1 =
      ⟨(List.range' 1 (items.length / 100 + 1)).map (tracker.pageRequest url label),
        .ok (issuesOf items)⟩ := by
  have hlast := congrArg Web.Exchange.result (h.page_eq (Nat.le_refl _))
  have hshort : ((items.drop (100 * (items.length / 100))).take 100).length < 100 := by
    rw [List.length_take, List.length_drop]
    omega
  rw [issuesFrom_of_turned_short (h.turned (Nat.le_refl _)) hlast hshort hpages,
    h.requestsTo_eq (Nat.le_refl _), ← List.take_add, ← Nat.mul_succ,
    List.take_of_length_le (Nat.le_of_lt (Nat.lt_mul_div_succ _ (by decide)))]

/-- **The listing returns the issues of all pages up to the first short one, or a fault.** Each
page is asked for once, in turn. Of a list that is served in pages of a hundred entries all are
returned that are no pull requests, in their order, after one request for each page and for the
short one at its end. With any transport the listing ends at the first page that holds fewer entries
than fit, or cannot be read; a page cannot be read if there is no response, if the response is no
success or if its body has no entries. Only if all pages with a number are full there is no such
end. A body has entries only if it is a list of them, and has them if what they tell can be read. -/
theorem openIssues_listing (hurl : tracker.issuesUrl = .ok url) (transport : Transport)
    (label : String) :
    let listing := fun pages => tracker.issuesFrom transport url label pages 1
    let page := fun number => tracker.page transport url label number
    let kept := fun items : List Item =>
      (items.filter fun item => !item.isPullRequest).map (·.issue)
    tracker.openIssues transport label = listing lastPage ∧
    (∀ items, Serves tracker transport url label items →
      ∀ pages, items.length / 100 < pages →
        listing pages =
          ⟨(List.range' 1 (items.length / 100 + 1)).map (tracker.pageRequest url label),
            .ok (kept items)⟩ ∧
        (listing pages).requests.Nodup) ∧
    (∀ count items, Turned tracker transport url label count items → ∀ pages, count < pages →
      (∀ more, (page (count + 1)).result = .ok more → more.length < 100 →
        listing pages =
          ⟨tracker.requestsTo transport url label (count + 1), .ok (kept (items ++ more))⟩) ∧
      ∀ fault, (page (count + 1)).result = .error fault →
        listing pages = ⟨tracker.requestsTo transport url label (count + 1), .error fault⟩) ∧
    (∀ pages, (∃ items, Turned tracker transport url label pages items) ∨
      ∃ count items, count < pages ∧ Turned tracker transport url label count items ∧
        ((∃ more, (page (count + 1)).result = .ok more ∧ more.length < 100) ∨
          ∃ fault, (page (count + 1)).result = .error fault)) ∧
    (∀ number,
      let sent := Web.send transport (tracker.pageRequest url label number)
      (page number).requests = sent.requests ∧
      (∀ fault, sent.result = .error fault → (page number).result = .error (.network fault)) ∧
      ∀ response, sent.result = .ok response →
        (Web.isSuccess response.status = false →
          (page number).result = .error (.refused response.status (pageUrl url label number))) ∧
        (Web.isSuccess response.status = true → readItems? response.body = none →
          (page number).result = .error (.unexpectedContent (pageUrl url label number))) ∧
        ∀ items, Web.isSuccess response.status = true → readItems? response.body = some items →
          (page number).result = .ok items) ∧
    ∀ body items,
      (PageBody (Json.Term.Readable 126) items body → readItems? body = some items) ∧
      (readItems? body = some items → PageBody (fun _ => True) items body) := by
  refine ⟨?_, ?_, ?_, turned_or_ends tracker transport url label, ?_,
    fun body items => ⟨readItems?_of_pageBody, pageBody_of_readItems?⟩⟩
  · unfold openIssues
    simp only [hurl]
  · intro items h pages hpages
    have heq := h.issuesFrom_eq hpages
    rw [issuesOf_eq] at heq
    refine ⟨heq, ?_⟩
    have hnodup : ((List.range' 1 (items.length / 100 + 1)).map
        (tracker.pageRequest url label)).Nodup :=
      List.Nodup.map (fun _ _ => pageRequest_inj) (List.nodup_range')
    exact (congrArg Web.Exchange.requests heq) ▸ hnodup
  · intro count items h pages hpages
    refine ⟨fun more hpage hshort => ?_, fun _ hpage => issuesFrom_of_turned_error h hpage hpages⟩
    have heq := issuesFrom_of_turned_short h hpage hshort hpages
    rwa [issuesOf_eq] at heq
  · intro number sent
    have hpage := @page_eq tracker transport url label number
    refine ⟨congrArg Web.Exchange.requests hpage, fun fault hfault => ?_,
      fun response hresponse => ?_⟩
    · have hresult := congrArg Web.Exchange.result hpage
      rwa [hfault] at hresult
    have hresult : (tracker.page transport url label number).result =
        reply readItems? (pageUrl url label number) response := by
      have hresult := congrArg Web.Exchange.result hpage
      rwa [hresponse] at hresult
    refine ⟨fun hrefused => ?_, fun hsuccess hnone => ?_, fun items hsuccess hitems => ?_⟩
    · simpa only [reply, hrefused, Bool.false_eq_true, if_false] using hresult
    · simpa only [reply, hsuccess, hnone, if_true] using hresult
    · simpa only [reply, hsuccess, hitems, if_true] using hresult

/-! ### Issues between pull requests -/

def entry (n : Nat) (pull : Bool) : Item := ⟨⟨n, "t", "u"⟩, pull⟩

/-- The text of a page with an issue and `count` pull requests behind it. -/
def pageText (digit : Char) (count : Nat) : String :=
  String.ofList ('[' :: (plainEntry digit false ++
    ((List.replicate count (',' :: plainEntry '7' true)).flatten ++ [']'])))

theorem pageBody_pageText (digit : Char) (h : digit.isDigit = true ∧ digit ≠ '0') (count : Nat) :
    PageBody (Json.Term.Readable 126)
      (entry (digitNumeral digit h).magnitude false :: List.replicate count (entry 7 true))
      (pageText digit count) := by
  have hmore : Json.Parts ']' (EntryText (Json.Term.Readable 126)) false
      (List.replicate count (entry 7 true))
      ((List.replicate count (',' :: plainEntry '7' true)).flatten ++ [']']) := by
    induction count with
    | zero => exact .close Json.blank_nil
    | succ count ih =>
      have hcomma : Json.Lead false [','] := .later Json.blank_nil Json.blank_nil
      rw [List.replicate_succ, List.replicate_succ, List.flatten_cons, List.append_assoc,
        List.cons_append]
      exact .part hcomma (entryText_plainEntry 124 '7' (by decide) true) ih
  exact ⟨[], _, [], Json.blank_nil, .part (.first Json.blank_nil)
    (entryText_plainEntry 124 digit h false) hmore, Json.blank_nil, by simp [pageText]⟩

/-- An issue and enough pull requests to fill a page, with one more issue behind them. -/
def mixedItems : List Item :=
  entry 8 false :: List.replicate 99 (entry 7 true) ++ [entry 9 false]

def mixedPages (request : Request) : Option Response :=
  if request.url = pageUrl sopsUrl "SOP-Review" 1 then some ⟨200, none, pageText '8' 99⟩
  else some ⟨200, none, pageText '9' 0⟩

/-- Both issues are returned, though one page is full of pull requests but for one of them. -/
theorem openIssues_listing_mixed :
    sopsTracker.issuesUrl = .ok sopsUrl ∧
    Serves sopsTracker mixedPages sopsUrl "SOP-Review" mixedItems ∧
    sopsTracker.openIssues mixedPages "SOP-Review" =
      ⟨[sopsTracker.pageRequest sopsUrl "SOP-Review" 1,
        sopsTracker.pageRequest sopsUrl "SOP-Review" 2],
        .ok [⟨8, "t", "u"⟩, ⟨9, "t", "u"⟩]⟩ := by
  have hlength : mixedItems.length / 100 = 1 := by simp [mixedItems]
  have hserves : Serves sopsTracker mixedPages sopsUrl "SOP-Review" mixedItems := by
    intro before hbefore
    have hpages : before = 0 ∨ before = 1 := by omega
    rcases hpages with rfl | rfl
    · exact ⟨⟨200, none, pageText '8' 99⟩, if_pos rfl, rfl,
        readItems?_of_pageBody (pageBody_pageText '8' (by decide) 99)⟩
    · refine ⟨⟨200, none, pageText '9' 0⟩, if_neg fun hsame => ?_, rfl,
        readItems?_of_pageBody (pageBody_pageText '9' (by decide) 0)⟩
      have hpage : sopsTracker.pageRequest sopsUrl "SOP-Review" 2 =
          sopsTracker.pageRequest sopsUrl "SOP-Review" 1 :=
        congrArg (fun url => sopsTracker.request .get url none) hsame
      exact absurd (pageRequest_inj hpage) (by decide)
  have hkept : (mixedItems.filter fun item => !item.isPullRequest).map (·.issue) =
      [⟨8, "t", "u"⟩, ⟨9, "t", "u"⟩] := by
    simp [mixedItems, entry]
  obtain ⟨hopen, hserved, -⟩ := openIssues_listing issuesUrl_sopsTracker mixedPages "SOP-Review"
  have hlisting := (hserved _ hserves lastPage (by rw [hlength]; decide)).1
  simp only [hlength, hkept] at hlisting
  exact ⟨issuesUrl_sopsTracker, hserves, hopen.trans hlisting⟩

end SopDocs.Review.Tracker
