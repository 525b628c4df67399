import Passbook.Proofs.History.Order

/-! Pages of a sorted history that grows. Records that come in behind a first part leave it as it was, and full pages
that are read one after the other make up a first part. -/

namespace Passbook

namespace Transaction

lemma take_eq_of_sublist {ts ts' : List Transaction} (hsub : ts.Sublist ts') (hs : Sorted ts') {n : Nat}
    (hn : n ≤ ts.length) (hnew : ∀ t ∈ ts', t ∉ ts → ∀ r ∈ ts.take n, r.isBefore t) : ts'.take n = ts.take n := by
  induction hsub generalizing n with
  | slnil => rfl
  | @cons ts ts' x hsub ih =>
    obtain ⟨hx, hs'⟩ := List.pairwise_cons.mp hs
    cases ts with
    | nil => simp [Nat.le_zero.mp hn]
    | cons r ts =>
      cases n with
      | zero => rfl
      | succ n =>
        -- a record in front of the old ones cannot be behind the first of them
        have hr : x.isBefore r := hx r (hsub.subset List.mem_cons_self)
        have hnot : x ∉ r :: ts := fun hmem => isBefore_irrefl x (hx x (hsub.subset hmem))
        exact absurd hr (isBefore_asymm (hnew x List.mem_cons_self hnot r List.mem_cons_self))
  | @cons_cons ts ts' x hsub ih =>
    obtain ⟨hx, hs'⟩ := List.pairwise_cons.mp hs
    cases n with
    | zero => rfl
    | succ n =>
      rw [List.take_succ_cons, List.take_succ_cons, ih hs' (Nat.le_of_succ_le_succ hn)]
      intro t ht hnot r hr
      have hne : t ≠ x := by
        rintro rfl
        exact isBefore_irrefl t (hx t ht)
      exact hnew t (List.mem_cons_of_mem x ht) (by simp [hne, hnot]) r (List.mem_cons_of_mem x hr)

end Transaction

namespace Page

variable {α : Type} {p : Page} {records : List α}

lemma of?_eq_some {number size : Nat} (h : of? number size = some p) : p.number = number ∧ p.size = size := by
  unfold of? at h
  split at h
  · cases h
    exact ⟨rfl, rfl⟩
  · cases h

lemma select_eq_slice (hword : records.length < wordLimit) :
    p.select records = (records.drop ((p.number - 1) * p.size)).take p.size := by
  have hoffset : p.offset = min ((p.number - 1) * p.size) (wordLimit - 1) := rfl
  rw [select]
  rcases Nat.le_total ((p.number - 1) * p.size) (wordLimit - 1) with h | h
  · rw [hoffset, Nat.min_eq_left h]
  · rw [List.drop_eq_nil_of_le (by omega), List.drop_eq_nil_of_le (by omega)]

lemma flatMap_slices (width count : Nat) (records : List α) :
    ((List.range count).flatMap fun i => (records.drop (i * width)).take width) = records.take (count * width) := by
  induction count with
  | zero => simp
  | succ count ih =>
    rw [List.range_succ, List.flatMap_append, ih, List.flatMap_singleton, Nat.succ_mul]
    exact List.take_add.symm

lemma offset_of_full (hfull : (p.select records).length = p.size) (hword : records.length < wordLimit) :
    p.offset = (p.number - 1) * p.size ∧ p.offset + p.size ≤ records.length := by
  have hpos := p.size_pos
  have hlength : min p.size (records.length - p.offset) = p.size := by
    rwa [select, List.length_take, List.length_drop] at hfull
  have hoffset : p.offset = min ((p.number - 1) * p.size) (wordLimit - 1) := rfl
  omega

lemma take_append_select {records : List α} {number size : Nat} (hp : of? (number + 1) size = some p)
    (hfull : (p.select records).length = size) (hword : records.length < wordLimit) :
    records.take (number * size) ++ p.select records = records.take ((number + 1) * size) ∧
      (number + 1) * size ≤ records.length := by
  obtain ⟨hnumber, rfl⟩ := of?_eq_some hp
  obtain ⟨hoffset, hle⟩ := offset_of_full hfull hword
  rw [hnumber, Nat.add_sub_cancel] at hoffset
  rw [hoffset] at hle
  rw [select, hoffset, Nat.succ_mul]
  exact ⟨List.take_add.symm, hle⟩

end Page

end Passbook
