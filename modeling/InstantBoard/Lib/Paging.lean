import InstantBoard.Lib.Table
import Mathlib.Data.List.Sort
import Mathlib.Order.Defs.LinearOrder

/-!
# Rewriting the rows of a table page by page

A loop that asks for the selected rows in the order of their key, one page after the other by offset
and limit, and rewrites rows of the page before it asks for the next one. It ends with an empty page or
with one that is not full.

When a rewritten row keeps its key and stays selected, the pages are those of the table as it was:
`scan_eq_ok` says that the loop ends, and that it has visited each selected row once.
-/

namespace Paging

variable {α κ ε : Type*}

/-- The table while it is scanned, and the counts. -/
structure Scan (α : Type*) where
  rows : List α
  scanned : Nat
  updated : Nat

section

variable [DecidableEq κ] (key : α → κ) (visit : α → Except ε (Option α))

/-- One row; `visit` gives the row to write, if there is one. -/
def visitRow (s : Scan α) (a : α) : Except ε (Scan α) :=
  match visit a with
  | .error e => .error e
  | .ok none => .ok { s with scanned := s.scanned + 1 }
  | .ok (some a') =>
    .ok { rows := Table.replace key a' s.rows, scanned := s.scanned + 1, updated := s.updated + 1 }

def visitPage : List α → Scan α → Except ε (Scan α)
  | [], s => .ok s
  | a :: page, s =>
    match visitRow key visit s a with
    | .error e => .error e
    | .ok s' => visitPage page s'

/-- The loop, with a bound on its turns. -/
def scan (select : List α → List α) (size : Nat) : Nat → Nat → Scan α → Option (Except ε (Scan α))
  | 0, _, _ => none
  | fuel + 1, offset, s =>
    let page := ((select s.rows).drop offset).take size
    if page.isEmpty then some (.ok s)
    else
      match visitPage key visit page s with
      | .error e => some (.error e)
      | .ok s' =>
        if page.length < size then some (.ok s') else scan select size fuel (offset + size) s'

end

/-- A row after its visit. -/
def visited (rewrite : α → Option α) (a : α) : α :=
  (rewrite a).getD a

/-- A visit keeps an element's key and whether it is listed. -/
lemma key_visited {key : α → κ} {p : α → Bool} {rewrite : α → Option α}
    (hkey : ∀ a a', rewrite a = some a' → key a' = key a ∧ p a' = p a) (a : α) :
    key (visited rewrite a) = key a ∧ p (visited rewrite a) = p a := by
  unfold visited
  cases h : rewrite a with
  | none => exact ⟨rfl, rfl⟩
  | some a' => exact hkey a a' h

variable [LinearOrder κ]

/-- The selected rows in the order of the key. -/
def listing (key : α → κ) (p : α → Bool) (rows : List α) : List α :=
  (rows.filter p).insertionSort fun a b => key a ≤ key b

section

variable {key : α → κ} {p : α → Bool} {rewrite : α → Option α} {visit : α → Except ε (Option α)}
  {rows : List α}

/-- A row when those with these keys have been visited. -/
def mark (key : α → κ) (rewrite : α → Option α) (ks : List κ) (a : α) : α :=
  if key a ∈ ks then visited rewrite a else a

/-- A marked element keeps its key and whether it is listed. -/
lemma key_mark (hkey : ∀ a a', rewrite a = some a' → key a' = key a ∧ p a' = p a) (ks : List κ)
    (a : α) : key (mark key rewrite ks a) = key a ∧ p (mark key rewrite ks a) = p a := by
  unfold mark
  split
  · exact key_visited hkey a
  · exact ⟨rfl, rfl⟩

/-- The listing of the table with some rows visited is the listing with these rows visited. -/
lemma listing_mark (hkey : ∀ a a', rewrite a = some a' → key a' = key a ∧ p a' = p a) (ks : List κ) :
    listing key p (rows.map (mark key rewrite ks)) = (listing key p rows).map (mark key rewrite ks) := by
  have hfilter : (rows.map (mark key rewrite ks)).filter p =
      (rows.filter p).map (mark key rewrite ks) := by
    rw [List.filter_map]
    congr 1
    apply List.filter_congr
    intro a _
    exact (key_mark hkey ks a).2
  unfold listing
  rw [hfilter]
  apply Eq.symm
  apply List.map_insertionSort
  intro a _ b _
  rw [(key_mark hkey ks a).1, (key_mark hkey ks b).1]

/-- A listing is a permutation of the rows that pass. -/
lemma listing_perm : (listing key p rows).Perm (rows.filter p) :=
  List.perm_insertionSort _ _

/-- A listing has the rows that pass. -/
lemma mem_listing {a : α} : a ∈ listing key p rows ↔ a ∈ rows ∧ p a = true := by
  rw [listing_perm.mem_iff, List.mem_filter]

/-- No key comes twice in a listing. -/
lemma listing_nodup (hkeyed : Table.Unique key rows) : ((listing key p rows).map key).Nodup :=
  (listing_perm.map key).nodup_iff.2 (List.Nodup.sublist (List.filter_sublist.map key) hkeyed)

/-- One row more is visited. -/
lemma visitRow_eq_ok (hkeyed : Table.Unique key rows)
    (hkey : ∀ a a', rewrite a = some a' → key a' = key a ∧ p a' = p a)
    {a : α} (ha : a ∈ rows) (hvisit : visit a = .ok (rewrite a)) {ks : List κ} (hks : key a ∉ ks)
    {n u : Nat} :
    visitRow key visit ⟨rows.map (mark key rewrite ks), n, u⟩ a =
      .ok ⟨rows.map (mark key rewrite (ks ++ [key a])), n + 1,
        u + if (rewrite a).isSome then 1 else 0⟩ := by
  -- what becomes of the row with the key, and of the others
  have hmark : ∀ r ∈ rows, mark key rewrite (ks ++ [key a]) r =
      if key r = key a then visited rewrite a else mark key rewrite ks r := by
    intro r hr
    unfold mark
    by_cases hr' : key r = key a
    · rw [if_pos hr', hkeyed.eq_of_mem hr ha hr']
      exact if_pos (List.mem_append_right _ (List.mem_singleton_self _))
    · rw [if_neg hr']
      simp [hr']
  unfold visitRow
  rw [hvisit]
  cases hrewrite : rewrite a with
  | none =>
    have hsame : rows.map (mark key rewrite (ks ++ [key a])) = rows.map (mark key rewrite ks) := by
      apply List.map_congr_left
      intro r hr
      rw [hmark r hr]
      split
      · rename_i hr'
        rw [hkeyed.eq_of_mem hr ha hr']
        unfold visited mark
        rw [hrewrite, if_neg hks]
        rfl
      · rfl
    dsimp only
    rw [hsame]
    rfl
  | some a' =>
    have hreplace : rows.map (mark key rewrite (ks ++ [key a])) =
        Table.replace key a' (rows.map (mark key rewrite ks)) := by
      unfold Table.replace
      rw [List.map_map]
      apply List.map_congr_left
      intro r hr
      rw [hmark r hr]
      show _ = if key (mark key rewrite ks r) = key a' then a' else mark key rewrite ks r
      rw [(key_mark hkey ks r).1, (hkey a a' hrewrite).1]
      unfold visited
      rw [hrewrite]
      rfl
    dsimp only
    rw [hreplace]
    rfl

/-- A page is visited row by row. -/
lemma visitPage_eq_ok (hkeyed : Table.Unique key rows)
    (hkey : ∀ a a', rewrite a = some a' → key a' = key a ∧ p a' = p a) {page : List α}
    (hpage : ∀ a ∈ page, a ∈ rows) (hvisit : ∀ a ∈ page, visit a = .ok (rewrite a)) {ks : List κ}
    (hks : (ks ++ page.map key).Nodup) {n u : Nat} :
    visitPage key visit page ⟨rows.map (mark key rewrite ks), n, u⟩ =
      .ok ⟨rows.map (mark key rewrite (ks ++ page.map key)), n + page.length,
        u + (page.filter fun a => (rewrite a).isSome).length⟩ := by
  induction page generalizing ks n u with
  | nil => simp [visitPage]
  | cons a page ih =>
    have hnot : key a ∉ ks := by
      intro hmem
      exact (List.nodup_append.1 hks).2.2 _ hmem _ List.mem_cons_self rfl
    unfold visitPage
    rw [visitRow_eq_ok hkeyed hkey (hpage a List.mem_cons_self) (hvisit a List.mem_cons_self) hnot]
    have happend : ks ++ (a :: page).map key = (ks ++ [key a]) ++ page.map key := by
      simp
    rw [happend] at hks ⊢
    dsimp only
    rw [ih (fun b hb => hpage b (List.mem_cons_of_mem _ hb))
      (fun b hb => hvisit b (List.mem_cons_of_mem _ hb)) hks]
    congr 2
    · rw [List.length_cons]
      omega
    · rw [List.filter_cons]
      split
      · rw [List.length_cons]
        omega
      · rfl

/-- Where the rows up to the offset are visited, the page is that of the table as it was. -/
lemma page_eq (hkeyed : Table.Unique key rows)
    (hkey : ∀ a a', rewrite a = some a' → key a' = key a ∧ p a' = p a) (offset size : Nat) :
    ((listing key p (rows.map
        (mark key rewrite (((listing key p rows).map key).take offset)))).drop offset).take size =
      ((listing key p rows).drop offset).take size := by
  rw [listing_mark hkey, ← List.map_drop]
  congr 1
  have hid : ∀ a ∈ (listing key p rows).drop offset,
      mark key rewrite (((listing key p rows).map key).take offset) a = a := by
    intro a ha
    apply if_neg
    intro hmem
    have hdrop : key a ∈ ((listing key p rows).map key).drop offset := by
      rw [← List.map_drop]
      exact List.mem_map_of_mem ha
    exact List.disjoint_take_drop (listing_nodup hkeyed) (Nat.le_refl offset) hmem hdrop
  rw [List.map_congr_left hid, List.map_id']

/-- The rest of the loop, from an offset on. -/
lemma scan_from (hkeyed : Table.Unique key rows)
    (hkey : ∀ a a', rewrite a = some a' → key a' = key a ∧ p a' = p a)
    (hvisit : ∀ a ∈ rows, p a = true → visit a = .ok (rewrite a)) {size : Nat} (hsize : 0 < size)
    {fuel offset n u : Nat} (hoffset : offset ≤ (listing key p rows).length)
    (hfuel : (listing key p rows).length < offset + fuel) :
    scan key visit (listing key p) size fuel offset
        ⟨rows.map (mark key rewrite (((listing key p rows).map key).take offset)), n, u⟩ =
      some (.ok ⟨rows.map (mark key rewrite ((listing key p rows).map key)),
        n + ((listing key p rows).drop offset).length,
        u + (((listing key p rows).drop offset).filter fun a => (rewrite a).isSome).length⟩) := by
  induction fuel generalizing offset n u with
  | zero => omega
  | succ fuel ih =>
    unfold scan
    rw [page_eq hkeyed hkey]
    generalize hpage : ((listing key p rows).drop offset).take size = page
    have hmem : ∀ a ∈ page, a ∈ rows ∧ p a = true := by
      intro a ha
      rw [← hpage] at ha
      exact mem_listing.1 (List.mem_of_mem_drop (List.mem_of_mem_take ha))
    have hkeys : ((listing key p rows).map key).take offset ++ page.map key =
        ((listing key p rows).map key).take (offset + size) := by
      rw [List.take_add, ← hpage, List.map_take, List.map_drop]
    have hpage_ok := visitPage_eq_ok hkeyed hkey (fun a ha => (hmem a ha).1)
      (fun a ha => hvisit a (hmem a ha).1 (hmem a ha).2) (n := n) (u := u)
      (hkeys ▸ (listing_nodup hkeyed).sublist (List.take_sublist _ _))
    rw [hkeys] at hpage_ok
    have hlength : page.length = min size ((listing key p rows).length - offset) := by
      rw [← hpage, List.length_take, List.length_drop]
    have hrest : (listing key p rows).drop offset =
        page ++ (listing key p rows).drop (offset + size) := by
      rw [← hpage, ← List.drop_drop, List.take_append_drop]
    dsimp only
    split
    · rename_i hempty
      have hend : (listing key p rows).length = offset := by
        rw [List.isEmpty_iff.1 hempty, List.length_nil] at hlength
        omega
      rw [List.take_of_length_le (by rw [List.length_map, hend]),
        List.drop_eq_nil_of_le (Nat.le_of_eq hend)]
      rfl
    · rw [hpage_ok]
      dsimp only
      rw [hrest, List.filter_append, List.length_append, List.length_append]
      split
      · rename_i hshort
        have hend : (listing key p rows).length ≤ offset + size := by
          omega
        rw [List.take_of_length_le (by rw [List.length_map]; exact hend),
          List.drop_eq_nil_of_le hend]
        rfl
      · rename_i hfull
        rw [ih (by omega) (by omega), Nat.add_assoc, Nat.add_assoc]

/-- The loop ends, and each selected row has been visited once. -/
lemma scan_eq_ok (hkeyed : Table.Unique key rows)
    (hkey : ∀ a a', rewrite a = some a' → key a' = key a ∧ p a' = p a)
    (hvisit : ∀ a ∈ rows, p a = true → visit a = .ok (rewrite a)) {size : Nat} (hsize : 0 < size)
    {fuel : Nat} (hfuel : (rows.filter p).length < fuel) :
    scan key visit (listing key p) size fuel 0 ⟨rows, 0, 0⟩ =
      some (.ok ⟨rows.map fun a => if p a then visited rewrite a else a, (rows.filter p).length,
        ((rows.filter p).filter fun a => (rewrite a).isSome).length⟩) := by
  have hlength : (listing key p rows).length = (rows.filter p).length :=
    listing_perm.length_eq
  have hstart : rows.map (mark key rewrite (((listing key p rows).map key).take 0)) = rows := by
    rw [List.take_zero]
    exact List.map_id' rows
  have hend : rows.map (mark key rewrite ((listing key p rows).map key)) =
      rows.map fun a => if p a then visited rewrite a else a := by
    apply List.map_congr_left
    intro a ha
    have hmem : key a ∈ (listing key p rows).map key ↔ p a = true := by
      constructor
      · intro h
        obtain ⟨b, hb, hkb⟩ := List.mem_map.1 h
        obtain ⟨hb, hpb⟩ := mem_listing.1 hb
        rw [← hkeyed.eq_of_mem hb ha hkb]
        exact hpb
      · intro h
        exact List.mem_map_of_mem (mem_listing.2 ⟨ha, h⟩)
    unfold mark
    simp only [hmem]
  have hfuel' : (listing key p rows).length < 0 + fuel := by
    rw [hlength, Nat.zero_add]
    exact hfuel
  have hscan := scan_from (n := 0) (u := 0) hkeyed hkey hvisit hsize (Nat.zero_le _) hfuel'
  rw [hstart, hend, List.drop_zero, Nat.zero_add, Nat.zero_add, hlength,
    (listing_perm.filter _).length_eq] at hscan
  exact hscan

end

end Paging
