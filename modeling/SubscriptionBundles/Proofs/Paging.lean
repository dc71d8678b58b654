import SubscriptionBundles.Proofs.Runs

/-!
# Reading page by page

A client asks for a first page and then, as long as there is one, for the page at the next offset.  It
comes to an end, and what it has read is the whole listing, in order and without repetition.

* `Page.nextOffset?_ofList`    a next page starts where this one ends, if the listing goes on there;
* `Page.next_le`               the sum for the next offset is one of two numbers the page holds, or less;
* `ReadOn`                     the pages that a client reads from an offset on;
* `readOn_ofList`              they are the rest of the listing;
* `Store.paged_exactly`        the listings of a store, plain and searched.
-/

namespace SubscriptionBundles

variable {α : Type}

/-! ## pages of a list -/

namespace Page

theorem length_items_ofList (l : List α) (offset limit : Nat) :
    (ofList l offset limit).items.length = min limit (l.length - offset) := by
  show ((l.drop offset).take limit).length = _
  rw [List.length_take, List.length_drop]

theorem nextOffset?_ofList (l : List α) (offset limit : Nat) :
    (ofList l offset limit).nextOffset? =
      if offset + limit < l.length then some (offset + limit) else none := by
  unfold nextOffset?
  rw [length_items_ofList]
  show (if offset + min limit (l.length - offset) < l.length then
    some (offset + min limit (l.length - offset)) else none) = _
  by_cases more : offset + limit < l.length
  · rw [Nat.min_eq_left (by omega)]
  · rw [if_neg more, if_neg (by omega)]

theorem next_le (l : List α) (offset limit : Nat) :
    (ofList l offset limit).offset + (ofList l offset limit).items.length ≤
      max (ofList l offset limit).offset (ofList l offset limit).totalCount := by
  rw [length_items_ofList]
  show offset + min limit (l.length - offset) ≤ max offset l.length
  omega

end Page

/-! ## reading on -/

/-- the pages that a client reads from an offset on: the page there, and on from its next offset -/
inductive ReadOn (ask : Nat → Page α) : Nat → List (Page α) → Prop
  | last {offset : Nat} (ends : (ask offset).nextOffset? = none) : ReadOn ask offset [ask offset]
  | more {offset next : Nat} {pages : List (Page α)} (goes : (ask offset).nextOffset? = some next)
      (rest : ReadOn ask next pages) : ReadOn ask offset (ask offset :: pages)

theorem ReadOn.unique {ask : Nat → Page α} {offset : Nat} {pages others : List (Page α)}
    (h : ReadOn ask offset pages) (h' : ReadOn ask offset others) : others = pages := by
  induction h generalizing others with
  | last ends =>
    cases h' with
    | last => rfl
    | more goes => cases ends.symm.trans goes
  | more goes rest ih =>
    cases h' with
    | last ends => cases ends.symm.trans goes
    | more goes' rest' =>
      cases goes.symm.trans goes'
      rw [ih rest']

/-- Each page but the last brings the client `limit` entries further. -/
theorem readOn_ofList (l : List α) {limit : Nat} (positive : 1 ≤ limit) (offset : Nat) :
    ∃ pages, ReadOn (fun offset => Page.ofList l offset limit) offset pages ∧
      pages.flatMap (·.items) = l.drop offset ∧ (∀ p ∈ pages, p.totalCount = l.length) ∧
      pages.length = (l.length - offset - 1) / limit + 1 := by
  induction left : l.length - offset using Nat.strongRecOn generalizing offset with
  | ind left ih =>
    subst left
    have next := Page.nextOffset?_ofList l offset limit
    by_cases more : offset + limit < l.length
    · rw [if_pos more] at next
      obtain ⟨pages, rest, items, counts, length⟩ :=
        ih (l.length - (offset + limit)) (by omega) (offset + limit) rfl
      refine ⟨_ :: pages, .more next rest, ?_, ?_, ?_⟩
      · rw [List.flatMap_cons, items, ← List.drop_drop]
        exact List.take_append_drop limit (l.drop offset)
      · intro p hp
        rcases List.mem_cons.1 hp with rfl | hp
        · rfl
        · exact counts p hp
      · have step : l.length - (offset + limit) - 1 = l.length - offset - 1 - limit := by omega
        have whole : (l.length - offset - 1) / limit = (l.length - offset - 1 - limit) / limit + 1 :=
          Nat.div_eq_sub_div positive (by omega)
        rw [List.length_cons, length, step, whole]
    · rw [if_neg more] at next
      refine ⟨_, .last next, ?_, ?_, ?_⟩
      · rw [List.flatMap_cons, List.flatMap_nil, List.append_nil]
        exact List.take_of_length_le (by rw [List.length_drop]; omega)
      · intro p hp
        rw [List.mem_singleton.1 hp]
        rfl
      · rw [Nat.div_eq_of_lt (by omega)]
        rfl

/-! ## listings of a store -/

namespace Store
variable (s : Store)

/-- the bundles whose id, account or key is searched for, or all bundles if nothing is -/
def listed : Option String → List Bundle
  | none => s.bundles
  | some text => s.bundles.filter fun b =>
    decide (b.id.written = text ∨ b.accountId.written = text ∨ b.externalKey = some text)

/-- a page of them -/
def listedPage : Option String → Nat → Nat → Page Bundle
  | none => s.page
  | some text => s.search text

theorem listedPage_eq (sought : Option String) :
    s.listedPage sought = Page.ofList (s.listed sought) := by
  cases sought with
  | none => rfl
  | some text =>
    have matching : matchesSearch text = fun b => decide (b.id.written = text ∨
        b.accountId.written = text ∨ b.externalKey = some text) := by
      funext b
      rw [Bool.eq_iff_iff]
      simp only [matchesSearch, Bool.or_eq_true, beq_iff_eq, decide_eq_true_eq, or_assoc]
    show Page.ofList (s.bundles.filter (matchesSearch text)) = _
    rw [matching]
    rfl

/-- A client that reads on from the start comes to an end, in one way only.  It has then read the
bundles of the listing, each in its place, every page tells their number, and no sum for a next offset
needs more bits than the offset and that number. -/
theorem paged_exactly (sought : Option String) {limit : Nat} (positive : 1 ≤ limit) :
    (∃ pages, ReadOn (fun offset => s.listedPage sought offset limit) 0 pages ∧
        (∀ others, ReadOn (fun offset => s.listedPage sought offset limit) 0 others →
          others = pages) ∧
        pages.flatMap (·.items) = s.listed sought ∧
        (∀ p ∈ pages, p.totalCount = (s.listed sought).length) ∧
        pages.length = ((s.listed sought).length - 1) / limit + 1) ∧
      ∀ offset any, let p := s.listedPage sought offset any
        p.offset < 2 ^ 64 → p.totalCount < 2 ^ 64 → p.offset + p.items.length < 2 ^ 64 := by
  rw [listedPage_eq]
  constructor
  · obtain ⟨pages, reads, items, counts, length⟩ := readOn_ofList (s.listed sought) positive 0
    exact ⟨pages, reads, fun others => reads.unique, items, counts, length⟩
  · intro offset any p offset_lt count_lt
    have sum : p.offset + p.items.length ≤ max p.offset p.totalCount :=
      Page.next_le (s.listed sought) offset any
    omega

end Store

/-- three bundles, two of them under one key -/
def Shop.threeBundles : Store where
  bundles := [
    .new (.ofNat 1) Shop.owner (some "home") (Shop.midnight 20000),
    .new (.ofNat 2) Shop.owner (some "work") (Shop.midnight 20001),
    .new (.ofNat 3) Shop.owner (some "home") (Shop.midnight 20002)]
  records := []

theorem Store.paged_exactly_home :
    (∃ pages, ReadOn (fun offset => Shop.threeBundles.listedPage (some "home") offset 1) 0 pages ∧
        pages.flatMap (·.items) = [
          .new (.ofNat 1) Shop.owner (some "home") (Shop.midnight 20000),
          .new (.ofNat 3) Shop.owner (some "home") (Shop.midnight 20002)] ∧ pages.length = 2) ∧
      ∀ any, 2 ^ 64 - 1 + (Shop.threeBundles.listedPage (some "home") (2 ^ 64 - 1) any).items.length <
        2 ^ 64 := by
  have found : Shop.threeBundles.listed (some "home") = [
      .new (.ofNat 1) Shop.owner (some "home") (Shop.midnight 20000),
      .new (.ofNat 3) Shop.owner (some "home") (Shop.midnight 20002)] := by
    decide +kernel
  obtain ⟨⟨pages, reads, _, items, _, length⟩, sums⟩ :=
    Store.paged_exactly Shop.threeBundles (some "home") (show 1 ≤ 1 by decide)
  rw [found] at items length
  refine ⟨⟨pages, reads, items, length⟩, fun any => ?_⟩
  have number : (Shop.threeBundles.listedPage (some "home") (2 ^ 64 - 1) any).totalCount = 2 := by
    rw [Store.listedPage_eq, found]
    rfl
  exact sums (2 ^ 64 - 1) any (show 2 ^ 64 - 1 < 2 ^ 64 by decide) (by rw [number]; decide)

end SubscriptionBundles
