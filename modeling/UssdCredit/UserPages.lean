import UssdCredit.Library.Pages
import UssdCredit.Library.Records
import UssdCredit.Admin

/-! The pages of the user list: one after another they are the list, and the Next button of the
dashboard goes through all of them. -/

namespace UssdCredit

open Library Program

/-! The pages of the server. -/

/-- The users in the order of the query. -/
def newestFirst (rt : Runtime) (docs : List Document) : List Document :=
  docs.mergeSort fun a b => rt.bsonLe (b.get? "created_at") (a.get? "created_at")

/-- The users the query finds. -/
def matchingUsers (s : Server) (filter : Filter) : List Document :=
  ((s.collection .users).docs.filter (·.satisfies filter)).map Admin.withoutHash

/-- A request for one page of the users under a filter. -/
structure AsksFor (rt : Runtime) (req : Http) (filter : Filter) (page perPage : Int) : Prop where
  page : Admin.intArg req "page" 1 = .ok page
  perPage : Admin.intArg req "per_page" 20 = .ok perPage
  filter : Admin.listFilter rt req = .ok filter

/-- The answer that shows some users of a page. -/
def pageAnswer (page perPage : Int) (total : Nat) (users : List Value) : Response :=
  jsonify 200 (.dict [
    ("message", .str "Users retrieved successfully"),
    ("users", .list users),
    ("pagination", .dict [
      ("page", .int page),
      ("per_page", .int perPage),
      ("total", .int total),
      ("pages", .int (Int.fdiv (total + perPage - 1) perPage))])])

section Server

variable {rt : Runtime} {req : Http} {filter : Filter} {page perPage : Int}

theorem find_ok {c : Collection} {found : List Document} (result : c.find filter = .ok found) :
    found = c.docs.filter (·.satisfies filter) := by
  unfold Collection.find at result
  split at result
  · cases result
  · exact (Except.ok.inj result).symm

theorem countDocuments_ok {c : Collection} {total : Nat} (result : c.countDocuments filter = .ok total) :
    total = (c.docs.filter (·.satisfies filter)).length := by
  unfold Collection.countDocuments at result
  split at result
  · cases result
  · rw [← Except.ok.inj result, List.countP_eq_length_filter]

theorem error_answers {e : PyExn} {holds : Response → Prop} :
    ∀ response, (.error e : Outcome) = .ok response → holds response := by
  intro response impossible
  cases impossible

/-- A request that succeeds has a filter, and is answered with the users of its page. -/
theorem listUsers_succeeds (pageArg : Admin.intArg req "page" 1 = .ok page)
    (perPageArg : Admin.intArg req "per_page" 20 = .ok perPage) (s : Server) :
    Post exec (Admin.listUsers rt req) s fun outcome _ =>
      ∀ response, outcome = .ok response → response.succeeds = true →
        ∃ filter users, Admin.listFilter rt req = .ok filter ∧
          Admin.usersJson
            (Admin.pageOf rt ((page - 1) * perPage) perPage (matchingUsers s filter)) = .ok users ∧
          response = pageAnswer page perPage (matchingUsers s filter).length users := by
  unfold Admin.listUsers Admin.ifMongo
  refine post_lift_bind (fun _ _ => error_answers) fun available _ => ?_
  split_ifs
  · refine post_lift_bind (fun _ _ => error_answers) fun page' given => ?_
    obtain rfl := Except.ok.inj (given.symm.trans pageArg)
    refine post_lift_bind (fun _ _ => error_answers) fun perPage' given => ?_
    obtain rfl := Except.ok.inj (given.symm.trans perPageArg)
    refine post_lift_bind (fun _ _ => error_answers) fun filter filtered => ?_
    refine post_countDocuments (fun _ => error_answers) fun total counted => ?_
    refine post_lift_bind (fun _ _ => error_answers) fun _ _ => ?_
    refine post_lift_bind (fun _ _ => error_answers) fun _ _ => ?_
    refine post_perform_bind (fun _ _ => error_answers) fun found result => ?_
    have listed : found.map Admin.withoutHash = matchingUsers s filter :=
      congrArg (List.map Admin.withoutHash) (find_ok result)
    refine post_lift_bind (fun _ _ => error_answers) fun users shown => ?_
    split_ifs
    · exact error_answers
    · refine post_pure fun response same _ => ?_
      rw [listed] at shown
      have length : (matchingUsers s filter).length = total := by
        rw [countDocuments_ok counted]
        exact List.length_map _
      refine ⟨filter, users, filtered, shown, ?_⟩
      rw [← Except.ok.inj same, length]
      rfl
  · refine post_pure fun response same ok => ?_
    rw [← Except.ok.inj same] at ok
    cases ok

/-- A page is answered with its users, or the request fails. -/
theorem listUsers_answer (asks : AsksFor rt req filter page perPage) (s : Server) :
    Post exec (Admin.listUsers rt req) s fun outcome _ =>
      ∀ response, outcome = .ok response → response.status = 200 →
        ∃ users, Admin.usersJson
            (Admin.pageOf rt ((page - 1) * perPage) perPage (matchingUsers s filter)) = .ok users ∧
          response = pageAnswer page perPage (matchingUsers s filter).length users := by
  refine post_mono (listUsers_succeeds asks.page asks.perPage s) fun outcome _ succeeds => ?_
  intro response answered ok
  have accepted : response.succeeds = true := by
    rw [Response.succeeds, ok]
    rfl
  obtain ⟨filter', users, filtered, shown, same⟩ := succeeds response answered accepted
  obtain rfl := Except.ok.inj (filtered.symm.trans asks.filter)
  exact ⟨users, shown, same⟩

end Server

section Pages

variable {rt : Runtime} {found : List Document} {size : Nat}

theorem pageOf_eq (positive : 0 < size) (before : Nat) (found : List Document) :
    Admin.pageOf rt (((before : Int) + 1 - 1) * size) size found =
      Pages.page size before (newestFirst rt found) := by
  have skip : (((before : Int) + 1 - 1) * size).toNat = size * before := by
    rw [add_sub_cancel_right, mul_comm, ← Nat.cast_mul, Int.toNat_natCast]
  have limit : ¬((size : Int) = 0) := by omega
  unfold Admin.pageOf
  rw [skip, if_neg limit]
  rfl

theorem length_newestFirst : (newestFirst rt found).length = found.length := List.length_mergeSort _

/-- The division of the answer is the number of pages. -/
theorem fdiv_eq_count (positive : 0 < size) (items : List Document) :
    Int.fdiv ((items.length : Int) + size - 1) size = Pages.count size items := by
  have numerator : (items.length : Int) + size - 1 = ((items.length + size - 1 : Nat) : Int) := by omega
  rw [Pages.count_eq, numerator, Int.natCast_ediv]
  exact Int.fdiv_eq_ediv_of_nonneg _ (Int.natCast_nonneg size)

theorem consecutive_eq_map_range (count : Nat) :
    Records.consecutive 1 count = (List.range count).map fun before : Nat => (before : Int) + 1 := by
  induction count with
  | zero => rfl
  | succ count ih =>
    rw [Records.consecutive_succ, ih, List.range_succ, List.map_append, List.map_singleton, add_comm]

end Pages

/-! The dashboard. -/

/-- Where the Next button leads; it is shown when there are several pages, and disabled on the
last one. -/
def nextPage (totalPages currentPage : Int) : Option Int :=
  if totalPages > 1 ∧ currentPage ≠ totalPages then some (min totalPages (currentPage + 1)) else none

/-- The pages fetched from one on, when Next is pressed so many times or until it is disabled. -/
def fetchedPages (totalPages : Int) : Nat → Int → List Int
  | 0, currentPage => [currentPage]
  | presses + 1, currentPage =>
      match nextPage totalPages currentPage with
      | none => [currentPage]
      | some next => currentPage :: fetchedPages totalPages presses next

theorem fetchedPages_last (totalPages : Int) (presses : Nat) :
    fetchedPages totalPages presses totalPages = [totalPages] := by
  cases presses with
  | zero => rfl
  | succ presses =>
    rw [fetchedPages, nextPage, if_neg fun shown => shown.2 rfl]

/-- From a page with `left` more after it they are fetched in turn. -/
theorem fetchedPages_eq {totalPages currentPage : Int} (several : totalPages > 1) {left presses : Nat}
    (there : currentPage + left = totalPages) (enough : left ≤ presses) :
    fetchedPages totalPages presses currentPage = Records.consecutive currentPage (left + 1) := by
  induction left generalizing currentPage presses with
  | zero =>
    obtain rfl : currentPage = totalPages := by omega
    exact fetchedPages_last _ _
  | succ left ih =>
    obtain ⟨presses, rfl⟩ := Nat.exists_eq_add_of_lt (Nat.lt_of_lt_of_le (Nat.succ_pos left) enough)
    have shown : nextPage totalPages currentPage = some (currentPage + 1) := by
      rw [nextPage, if_pos ⟨several, by omega⟩, min_eq_right (by omega)]
    rw [fetchedPages, shown]
    dsimp only
    rw [ih (by omega) (by omega)]
    rfl

theorem fetchedPages_few {totalPages : Int} (few : totalPages ≤ 1) (presses : Nat) (currentPage : Int) :
    fetchedPages totalPages presses currentPage = [currentPage] := by
  cases presses with
  | zero => rfl
  | succ presses => rw [fetchedPages, nextPage, if_neg fun shown => not_lt.mpr few shown.1]

theorem usersJson_flatMap {pages : List Int} {pageAt : Int → List Document} {shown : Int → List Value}
    (each : ∀ page ∈ pages, Admin.usersJson (pageAt page) = .ok (shown page)) :
    Admin.usersJson (pages.flatMap pageAt) = .ok (pages.flatMap shown) := by
  induction pages with
  | nil => rfl
  | cons page rest ih =>
    have first := each page List.mem_cons_self
    have later := ih fun other member => each other (List.mem_cons_of_mem _ member)
    unfold Admin.usersJson at *
    rw [List.flatMap_cons, List.flatMap_cons, List.mapM_append, first, later]
    rfl

section Partition

variable {rt : Runtime} {found : List Document} {size : Nat} (positive : 0 < size)

include positive

theorem flatMap_consecutive {pages : Nat} (enough : Pages.count size (newestFirst rt found) ≤ pages) :
    (Records.consecutive 1 pages).flatMap
      (fun page => Admin.pageOf rt ((page - 1) * size) size found) = newestFirst rt found := by
  rw [consecutive_eq_map_range, List.flatMap_map]
  refine Eq.trans ?_ (Pages.flatMap_all positive (newestFirst rt found) enough)
  exact congrArg (List.range pages).flatMap (funext fun before => pageOf_eq positive before found)

theorem pageOf_eq_nil_iff {page : Int} (first : 1 ≤ page) :
    Admin.pageOf rt ((page - 1) * size) size found = [] ↔
      (Pages.count size (newestFirst rt found) : Int) < page := by
  obtain ⟨before, there⟩ := Int.eq_ofNat_of_zero_le (by omega : 0 ≤ page - 1)
  obtain rfl : page = before + 1 := by omega
  rw [pageOf_eq positive, Pages.page_eq_nil_iff positive]
  omega

theorem length_pageOf_le (page : Int) : (Admin.pageOf rt ((page - 1) * size) size found).length ≤ size := by
  have limit : ¬((size : Int) = 0) := by omega
  unfold Admin.pageOf
  rw [if_neg limit]
  exact List.length_take_le _ _

/-- However often Next is pressed beyond the last page, every page has been fetched once. -/
theorem flatMap_fetchedPages {presses : Nat}
    (enough : (Pages.count size (newestFirst rt found) : Int) ≤ presses + 1) :
    (fetchedPages (Pages.count size (newestFirst rt found)) presses 1).flatMap
      (fun page => Admin.pageOf rt ((page - 1) * size) size found) = newestFirst rt found := by
  by_cases several : (Pages.count size (newestFirst rt found) : Int) > 1
  · obtain ⟨left, more⟩ := Int.eq_ofNat_of_zero_le
      (by omega : (0 : Int) ≤ (Pages.count size (newestFirst rt found) : Int) - 2)
    have there : (1 : Int) + ((left + 1 : Nat) : Int) = Pages.count size (newestFirst rt found) := by omega
    rw [fetchedPages_eq several there (by omega)]
    exact flatMap_consecutive positive (by omega)
  · rw [fetchedPages_few (not_lt.mp several)]
    exact flatMap_consecutive positive (by omega : _ ≤ 1)

end Partition

/-- For the users a query finds and every page size: the pages up to the number in the answer are
all of them in their order, none of these pages is empty or too long, and every later one is
empty. An answered request shows its page, and following the Next button shows every user once. -/
theorem pages_partition_users (rt : Runtime) (found : List Document) {perPage : Int}
    (positive : 1 ≤ perPage) :
    let listed := newestFirst rt found
    let pages := Int.fdiv (found.length + perPage - 1) perPage
    let pageAt := fun page : Int => Admin.pageOf rt ((page - 1) * perPage) perPage found
    (Records.consecutive 1 pages.toNat).flatMap pageAt = listed ∧
    (∀ page, 1 ≤ page → page ≤ pages → pageAt page ≠ [] ∧ ((pageAt page).length : Int) ≤ perPage) ∧
    (∀ page, pages < page → pageAt page = []) ∧
    (pages = 0 ↔ listed = []) ∧
    (∀ (s : Server) (req : Http) (filter : Filter) (page : Int), AsksFor rt req filter page perPage →
      matchingUsers s filter = found → ∀ response, ((Admin.listUsers rt req).serve s).1 = .ok response →
      response.status = 200 → ∃ users, Admin.usersJson (pageAt page) = .ok users ∧
        response = pageAnswer page perPage found.length users) ∧
    ∀ presses : Nat, pages ≤ presses + 1 →
      (fetchedPages pages presses 1).flatMap pageAt = listed ∧
      ∀ shown : Int → List Value,
        (∀ page ∈ fetchedPages pages presses 1, Admin.usersJson (pageAt page) = .ok (shown page)) →
        Admin.usersJson listed = .ok ((fetchedPages pages presses 1).flatMap shown) := by
  obtain ⟨size, rfl⟩ := Int.eq_ofNat_of_zero_le (by omega : 0 ≤ perPage)
  have positive : 0 < size := by omega
  intro listed pages pageAt
  have counted : pages = Pages.count size listed := by
    rw [← fdiv_eq_count positive, length_newestFirst]
  have fetched : ∀ presses : Nat, pages ≤ presses + 1 →
      (fetchedPages pages presses 1).flatMap pageAt = listed := by
    intro presses enough
    rw [counted] at enough ⊢
    exact flatMap_fetchedPages positive enough
  refine ⟨?_, fun page first last => ⟨?_, ?_⟩, fun page beyond => ?_, ?_, ?_, fun presses enough => ⟨?_, ?_⟩⟩
  · rw [counted]
    exact flatMap_consecutive positive le_rfl
  · rw [Ne, pageOf_eq_nil_iff positive first, ← counted]
    exact not_lt.mpr last
  · exact Int.ofNat_le.mpr (length_pageOf_le positive page)
  · rw [counted] at beyond
    exact (pageOf_eq_nil_iff positive (by omega)).mpr beyond
  · rw [counted, Int.natCast_eq_zero]
    exact Pages.count_eq_zero_iff positive
  · rintro s req filter page asks rfl
    exact listUsers_answer asks s
  · exact fetched presses enough
  · intro shown each
    rw [← fetched presses enough]
    exact usersJson_flatMap each

def threeUsers : List Document := [⟨1, [("id", .int 1), ("created_at", .datetime 10)]⟩,
  ⟨2, [("id", .int 2), ("created_at", .datetime 30)]⟩, ⟨3, [("id", .int 3), ("created_at", .datetime 20)]⟩]

/-- Two pages of two show three users. -/
theorem pages_partition_users_three :
    (1 : Int) ≤ 2 ∧ Int.fdiv ((threeUsers.length : Int) + 2 - 1) 2 = 2 ∧
      (Records.consecutive 1 2).flatMap
        (fun page => Admin.pageOf plainRuntime ((page - 1) * 2) 2 threeUsers) =
        newestFirst plainRuntime threeUsers :=
  ⟨by decide, by decide,
    (pages_partition_users plainRuntime threeUsers (by decide : (1 : Int) ≤ 2)).1⟩

end UssdCredit
