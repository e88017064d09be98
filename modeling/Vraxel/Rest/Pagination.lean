import Vraxel.Go.Strconv
import Vraxel.Lib.Like
/-
  From the query string of a list request to the LIMIT and OFFSET of its statement, and the pattern
  of its search (`lib/rest/options.go`, `lib/apiserver/wrap.go`, `lib/list/list.go`).
-/

namespace Vraxel.Rest

open Strconv Relational

abbrev Values : Type := List (String × List String)

variable (query : Values)

def Values.get (key : String) : String :=
  match query.find? (·.1 = key) with
  | some (_, v :: _) => v
  | _ => ""

structure Pagination where
  page : Int
  pageSize : Int
  sortBy : String
  sortOrder : String

structure ListOptions where
  filters : List (String × String)
  pagination : Pagination

def reservedQueryParams : List String := ["page", "page_size", "sort_by", "sort_order"]

/-- A parameter that is a positive number, or its default. `strconv.Atoi` reads an int64. -/
def positiveOr (default : Int) (text : String) : Int :=
  match parseInt text with
  | some n => if n > 0 then n else default
  | none => default

def parseListOptions : ListOptions where
  filters := query.filterMap fun kv =>
    match kv.2 with
    | v :: _ => if reservedQueryParams.contains kv.1 then none else some (kv.1, v)
    | [] => none
  pagination := {
    page := positiveOr 1 (query.get "page")
    pageSize := positiveOr 20 (query.get "page_size")
    sortBy := query.get "sort_by"
    sortOrder := query.get "sort_order" }

structure Query where
  filters : List (String × String)
  pagination : Pagination
  maxPageSize : Int

def parseListQuery (maxPageSize : Int) : Query :=
  ⟨(parseListOptions query).filters, (parseListOptions query).pagination, maxPageSize⟩

def pageCap (maxPageSize : Int) : Int := if maxPageSize < 1 then 100 else maxPageSize

def cappedSize (pageSize maxPageSize : Int) : Int :=
  let pageSize := if pageSize < 1 then 20 else pageSize
  if toInt32 pageSize > pageCap maxPageSize then pageCap maxPageSize else pageSize

def paginationToOffsetLimitWithMax (p : Pagination) (maxPageSize : Int) : Int × Int :=
  let page := if p.page < 1 then 1 else p.page
  let pageSize := cappedSize p.pageSize maxPageSize
  (toInt32 (toInt64 ((page - 1) * pageSize)), toInt32 pageSize)

def paginationToOffsetLimit (p : Pagination) : Int × Int := paginationToOffsetLimitWithMax p 100

def Query.offsetLimit (q : Query) : Int × Int :=
  if q.maxPageSize > 0 then paginationToOffsetLimitWithMax q.pagination q.maxPageSize
  else paginationToOffsetLimit q.pagination

/-- The parameters are those of the page. -/
def Bounded (p : Pagination) (maxPageSize : Int) (ol : Int × Int) : Prop :=
  1 ≤ ol.2 ∧ ol.2 ≤ pageCap maxPageSize ∧ ol.1 = (p.page - 1) * ol.2 ∧ 0 ≤ ol.1

def window {α : Type} (rows : List α) (ol : Int × Int) : List α := (rows.drop ol.1.toNat).take ol.2.toNat

/-! The parameters of one page. -/

theorem offsetLimit_parseListQuery (maxPageSize : Int) :
    (parseListQuery query maxPageSize).offsetLimit =
      paginationToOffsetLimitWithMax (parseListOptions query).pagination maxPageSize := by
  unfold Query.offsetLimit
  split
  · rfl
  · rename_i h
    have hlow : maxPageSize < 1 := by
      simp only [parseListQuery] at h
      omega
    have hcap : pageCap maxPageSize = pageCap 100 := by simp [pageCap, hlow]
    have hsize : ∀ pageSize, cappedSize pageSize maxPageSize = cappedSize pageSize 100 := by
      intro pageSize
      rw [cappedSize, hcap]
      rfl
    simp only [paginationToOffsetLimit, paginationToOffsetLimitWithMax, hsize, parseListQuery]
    rfl

theorem positiveOr_pos {default : Int} (h : 0 < default) (text : String) : 0 < positiveOr default text := by
  unfold positiveOr
  split
  · split
    · assumption
    · exact h
  · exact h

theorem pageCap_pos (maxPageSize : Int) : 1 ≤ pageCap maxPageSize := by
  unfold pageCap
  split <;> omega

theorem pageCap_lt {maxPageSize : Int} (h : maxPageSize < 2 ^ 31) : pageCap maxPageSize < 2 ^ 31 := by
  unfold pageCap
  split <;> omega

section Page

variable {p : Pagination} {maxPageSize : Int}

theorem limit_eq (hsize : 1 ≤ p.pageSize) (hmax : maxPageSize < 2 ^ 31) :
    (paginationToOffsetLimitWithMax p maxPageSize).2 = min (toInt32 p.pageSize) (pageCap maxPageSize) := by
  have hcap := pageCap_lt hmax
  have hpos := pageCap_pos maxPageSize
  simp only [paginationToOffsetLimitWithMax, cappedSize, if_neg (show ¬ p.pageSize < 1 by omega)]
  split
  · rw [toInt32_eq_self_iff.2 ⟨by omega, by omega⟩]
    omega
  · omega

theorem offset_eq (hpage : 1 ≤ p.page) :
    (paginationToOffsetLimitWithMax p maxPageSize).1 =
      toInt32 ((p.page - 1) * (paginationToOffsetLimitWithMax p maxPageSize).2) := by
  simp only [paginationToOffsetLimitWithMax, if_neg (show ¬ p.page < 1 by omega)]
  rw [toInt32_toInt64, toInt32_mul_toInt32]

theorem bounded_iff (hpage : 1 ≤ p.page) (hsize : 1 ≤ p.pageSize) (hmax : maxPageSize < 2 ^ 31) :
    Bounded p maxPageSize (paginationToOffsetLimitWithMax p maxPageSize) ↔
      0 < toInt32 p.pageSize ∧ (p.page - 1) * min (toInt32 p.pageSize) (pageCap maxPageSize) < 2 ^ 31 := by
  have hpos := pageCap_pos maxPageSize
  rw [Bounded, offset_eq hpage, limit_eq hsize hmax]
  generalize hlimit : min (toInt32 p.pageSize) (pageCap maxPageSize) = limit
  constructor
  · rintro ⟨hone, _, hexact, _⟩
    exact ⟨by omega, (toInt32_eq_self_iff.1 hexact).2⟩
  · rintro ⟨hpositive, hfits⟩
    have hnonneg : 0 ≤ (p.page - 1) * limit := Int.mul_nonneg (by omega) (by omega)
    have hexact : toInt32 ((p.page - 1) * limit) = (p.page - 1) * limit :=
      toInt32_eq_self_iff.2 ⟨by omega, hfits⟩
    exact ⟨by omega, by omega, hexact, by omega⟩

end Page

/-! Pages of one size. -/

theorem take_append_window {α : Type} (rows : List α) (n limit : Nat) :
    rows.take (n * limit) ++ (rows.drop (n * limit)).take limit = rows.take ((n + 1) * limit) := by
  rw [← List.take_add, Nat.succ_mul]

theorem pages_partition {α : Type} (rows : List α) (pageSize maxPageSize : Int) (sortBy sortOrder : String) (hsize : 1 ≤ pageSize)
    (hmax : maxPageSize < 2 ^ 31) (n : Nat)
    (hpages : ∀ i < n, Bounded ⟨i + 1, pageSize, sortBy, sortOrder⟩ maxPageSize
      (paginationToOffsetLimitWithMax ⟨i + 1, pageSize, sortBy, sortOrder⟩ maxPageSize)) :
    ((List.range n).map fun i : Nat =>
        window rows (paginationToOffsetLimitWithMax ⟨i + 1, pageSize, sortBy, sortOrder⟩ maxPageSize)).flatten =
      rows.take (n * (min (toInt32 pageSize) (pageCap maxPageSize)).toNat) := by
  induction n with
  | zero => simp
  | succ n ih =>
    have hlast := hpages n (Nat.lt_succ_self n)
    have hlimit := limit_eq (p := ⟨n + 1, pageSize, sortBy, sortOrder⟩) hsize hmax
    obtain ⟨hone, _, hoffset, _⟩ := hlast
    rw [List.range_succ, List.map_append, List.flatten_append, ih fun i hi => hpages i (by omega)]
    simp only [List.map_cons, List.map_nil, List.flatten_cons, List.flatten_nil, List.append_nil, window]
    rw [hoffset, hlimit]
    rw [hlimit] at hone
    generalize min (toInt32 pageSize) (pageCap maxPageSize) = limit at hone ⊢
    obtain ⟨k, rfl⟩ : ∃ k : Nat, limit = k := ⟨limit.toNat, by omega⟩
    have hstart : (((n : Int) + 1 - 1) * (k : Int)).toNat = n * k := by
      rw [Int.add_sub_cancel, ← Int.natCast_mul, Int.toNat_natCast]
    rw [hstart, Int.toNat_natCast]
    exact take_append_window rows n k

theorem flatten_pages {p : Pagination} {maxPageSize : Int} (hsize : 1 ≤ p.pageSize) (hmax : maxPageSize < 2 ^ 31)
    (hpositive : 0 < toInt32 p.pageSize) {α : Type} (rows : List α) (n : Nat)
    (hn : n * min (toInt32 p.pageSize) (pageCap maxPageSize) ≤ 2 ^ 31) :
    ((List.range n).map fun i : Nat =>
        window rows (paginationToOffsetLimitWithMax { p with page := i + 1 } maxPageSize)).flatten =
      rows.take (n * (min (toInt32 p.pageSize) (pageCap maxPageSize)).toNat) := by
  have hcap := pageCap_pos maxPageSize
  apply pages_partition rows p.pageSize maxPageSize p.sortBy p.sortOrder hsize hmax n
  intro i hi
  have hpage : (1 : Int) ≤ i + 1 := by omega
  refine (bounded_iff (p := { p with page := i + 1 }) hpage hsize hmax).2 ⟨hpositive, ?_⟩
  generalize hlimit : min (toInt32 p.pageSize) (pageCap maxPageSize) = limit at hn
  have hone : 0 < limit := by omega
  -- the offset of an earlier page is smaller
  calc ((i : Int) + 1 - 1) * limit = i * limit := by rw [Int.add_sub_cancel]
    _ < n * limit := Int.mul_lt_mul_of_pos_right (by exact_mod_cast hi) hone
    _ ≤ 2 ^ 31 := hn

/-- The parameters of a request are those of its page exactly if the page size is positive as
an int32 and the offset fits one; pages whose parameters are their own partition every list. -/
theorem pages_bounded_iff (query : Values) (maxPageSize : Int) (hmax : maxPageSize < 2 ^ 31) :
    let p := (parseListOptions query).pagination
    let limit := min (toInt32 p.pageSize) (pageCap maxPageSize)
    (parseListQuery query maxPageSize).offsetLimit = paginationToOffsetLimitWithMax p maxPageSize ∧
      (Bounded p maxPageSize (paginationToOffsetLimitWithMax p maxPageSize) ↔
        0 < toInt32 p.pageSize ∧ (p.page - 1) * limit < 2 ^ 31) ∧
      ∀ (α : Type) (rows : List α) (n : Nat), 0 < toInt32 p.pageSize → n * limit ≤ 2 ^ 31 →
        ((List.range n).map fun i : Nat =>
          window rows (paginationToOffsetLimitWithMax { p with page := i + 1 } maxPageSize)).flatten =
            rows.take (n * limit.toNat) := by
  have hpage : 1 ≤ (parseListOptions query).pagination.page := positiveOr_pos (by decide) _
  have hsize : 1 ≤ (parseListOptions query).pagination.pageSize := positiveOr_pos (by decide) _
  have hquery := offsetLimit_parseListQuery query maxPageSize
  refine ⟨hquery, bounded_iff hpage hsize hmax, ?_⟩
  intro α rows n hpositive hn
  exact flatten_pages hsize hmax hpositive rows n hn

def thirdPage : Values := [("page", ["3"]), ("page_size", ["50"])]

theorem third_page_bounded :
    (parseListQuery thirdPage 0).offsetLimit = (100, 50) ∧
      Bounded (parseListOptions thirdPage).pagination 0
        (paginationToOffsetLimitWithMax (parseListOptions thirdPage).pagination 0) :=
  ⟨by decide, (pages_bounded_iff thirdPage 0 (by decide)).2.1.2 (by decide)⟩

/-- A page far out is the first one again, and a huge page has no rows at all. -/
theorem far_page_wraps :
    (parseListQuery [("page", ["4294967297"]), ("page_size", ["20"])] 0).offsetLimit = (0, 20) ∧
      (parseListQuery [("page_size", ["4294967296"])] 0).offsetLimit = (0, 0) ∧
        (parseListQuery [("page", ["107374184"]), ("page_size", ["20"])] 0).offsetLimit = (-2147483636, 20) := by
  decide

/-! The search of a list request. -/

/-- `strings.ReplaceAll` of a single character. -/
def replaceChar (s : String) (old : Char) (new : String) : String :=
  String.ofList (s.toList.flatMap fun c => if c = old then new.toList else [c])

def escapeLikePattern (s : String) : String :=
  let s := replaceChar s '\\' "\\\\"
  let s := replaceChar s '%' "\\%"
  replaceChar s '_' "\\_"

theorem toList_escapeLikePattern (s : String) : (escapeLikePattern s).toList = s.toList.flatMap literal := by
  simp only [escapeLikePattern, replaceChar, String.toList_ofList, List.flatMap_assoc]
  refine List.flatMap_congr fun c _ => ?_
  by_cases hb : c = '\\'
  · subst hb; rfl
  by_cases hp : c = '%'
  · subst hp; rfl
  by_cases hu : c = '_'
  · subst hu; rfl
  simp [literal, hb, hp, hu]

/-- **Search is literal.** A text matches the escaped search between two percent signs exactly if it
contains the search. -/
theorem search_is_literal (s t : String) :
    like ("%" ++ escapeLikePattern s ++ "%").toList t.toList = true ↔ s.toList <:+: t.toList := by
  rw [← like_any_literals_any, String.toList_append, String.toList_append, toList_escapeLikePattern]
  rfl

end Vraxel.Rest
