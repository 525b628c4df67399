import Mathlib.Data.List.Pairwise
import Mathlib.Tactic.Common
import Passbook.Store

/-! The order of a history is a strict order, total on records of different identities. In a history that it sorts,
the records before a new one are a first part, so the place of the new record does not depend on how it is found. -/

namespace Passbook

lemma Instant.compare_eq_lex : Instant.compare = compareLex (compareOn Instant.seconds) (compareOn Instant.nanos) := rfl

instance : Std.TransCmp Instant.compare := by
  rw [Instant.compare_eq_lex]
  infer_instance

instance : Std.LawfulEqCmp Instant.compare where
  compare_self := by
    intro s
    simp [Instant.compare]
  eq_of_compare {s t} h := by
    obtain ⟨hs, hn⟩ := Ordering.then_eq_eq.mp h
    exact Instant.ext (Std.LawfulEqCmp.compare_eq_iff_eq.mp hs) (Std.LawfulEqCmp.compare_eq_iff_eq.mp hn)

lemma Uuid.compare_eq_on : Uuid.compare = compareOn Uuid.bytes := rfl

instance : Std.TransCmp Uuid.compare := by
  rw [Uuid.compare_eq_on]
  infer_instance

instance : Std.LawfulEqCmp Uuid.compare where
  compare_self := by
    intro x
    simp [Uuid.compare]
  eq_of_compare h := Uuid.ext (Std.LawfulEqCmp.compare_eq_iff_eq.mp h)

namespace Transaction

lemma historyOrder_eq_lex : historyOrder =
    compareLex (fun s t => s.createdAt.compare t.createdAt) (fun s t => s.id.uuid.compare t.id.uuid) := rfl

instance : Std.TransCmp historyOrder := by
  have h₁ : Std.TransCmp fun s t : Transaction => s.createdAt.compare t.createdAt :=
    { eq_swap := Std.OrientedCmp.eq_swap, isLE_trans := Std.TransCmp.isLE_trans }
  have h₂ : Std.TransCmp fun s t : Transaction => s.id.uuid.compare t.id.uuid :=
    { eq_swap := Std.OrientedCmp.eq_swap, isLE_trans := Std.TransCmp.isLE_trans }
  rw [historyOrder_eq_lex]
  infer_instance

lemma historyOrder_eq_iff {s t : Transaction} : s.historyOrder t = .eq ↔ s.createdAt = t.createdAt ∧ s.id = t.id := by
  have hid : s.id.uuid = t.id.uuid ↔ s.id = t.id := by
    cases s.id
    cases t.id
    simp
  rw [historyOrder, Ordering.then_eq_eq, Std.LawfulEqCmp.compare_eq_iff_eq, Std.LawfulEqCmp.compare_eq_iff_eq, hid]

lemma isBefore_iff {s t : Transaction} : s.isBefore t = true ↔ s.historyOrder t = .lt := by
  simp [isBefore]

lemma isBefore_trans {r s t : Transaction} (hrs : r.isBefore s) (hst : s.isBefore t) : r.isBefore t := by
  rw [isBefore_iff] at *
  exact Std.TransCmp.lt_trans hrs hst

lemma isBefore_asymm {s t : Transaction} (h : s.isBefore t) : ¬ t.isBefore s := by
  rw [isBefore_iff] at *
  exact Std.OrientedCmp.not_lt_of_lt h

lemma isBefore_irrefl (t : Transaction) : ¬ t.isBefore t := by
  intro h
  exact isBefore_asymm h h

lemma isBefore_of_not_isBefore {s t : Transaction} (hid : s.id ≠ t.id) (h : ¬ t.isBefore s) : s.isBefore t := by
  rw [isBefore_iff] at *
  cases ho : s.historyOrder t with
  | lt => rfl
  | eq => exact absurd (historyOrder_eq_iff.mp ho).2 hid
  | gt => exact absurd (Std.OrientedCmp.lt_of_gt ho) h

abbrev Sorted (ts : List Transaction) : Prop := ts.Pairwise fun s t => s.isBefore t

lemma Sorted.nodup {ts : List Transaction} (h : Sorted ts) : ts.Nodup := by
  refine List.Pairwise.imp ?_ h
  rintro s _ hs rfl
  exact isBefore_irrefl s hs

lemma Sorted.order_ne_eq {ts : List Transaction} (h : Sorted ts) {s t : Transaction} (hs : s ∈ ts) (ht : t ∈ ts)
    (hne : s ≠ t) : s.historyOrder t ≠ .eq := by
  have hsymm : Std.Symm fun s t : Transaction => s.historyOrder t ≠ .eq :=
    ⟨fun _ _ h ho => h (Std.OrientedCmp.eq_comm.mp ho)⟩
  have hpair : ts.Pairwise fun s t => s.historyOrder t ≠ .eq := by
    refine List.Pairwise.imp ?_ h
    intro s t hst
    simp [isBefore_iff.mp hst]
  exact hpair.forall hs ht hne

lemma isLE_or_isLE (s t : Transaction) : (s.historyOrder t).isLE || (t.historyOrder s).isLE := by
  have hswap : t.historyOrder s = (s.historyOrder t).swap := Std.OrientedCmp.eq_swap
  rw [hswap]
  cases s.historyOrder t <;> rfl

lemma Sorted.mergeSort_eq {ts us : List Transaction} (hs : Sorted ts) (hperm : us.Perm ts) :
    us.mergeSort (fun s t => (s.historyOrder t).isLE) = ts := by
  have hsorted : (us.mergeSort fun s t => (s.historyOrder t).isLE).Pairwise fun s t => (s.historyOrder t).isLE :=
    List.pairwise_mergeSort (fun _ _ _ => Std.TransCmp.isLE_trans) isLE_or_isLE _
  have hle : ts.Pairwise fun s t => (s.historyOrder t).isLE := hs.imp fun h => by simp [isBefore_iff.mp h]
  refine List.Perm.eq_of_pairwise ?_ hsorted hle ((List.mergeSort_perm _ _).trans hperm)
  intro s t hs' ht hst hts
  have hs' : s ∈ ts := hperm.mem_iff.mp ((List.mergeSort_perm _ _).mem_iff.mp hs')
  by_contra hne
  exact hs.order_ne_eq hs' ht hne (Std.OrientedCmp.isLE_antisymm hst hts)

lemma map_sortedPlaces (us : List Transaction) :
    (sortedPlaces us).map (us[·]?) = (us.mergeSort fun s t => (s.historyOrder t).isLE).map some := by
  have hle : ∀ o : Ordering, (o != .gt) = o.isLE := by decide
  have hplace : ∀ p ∈ us.zipIdx.mergeSort fun s t => s.1.historyOrder t.1 != .gt, us[p.2]? = some p.1 := by
    intro p hp
    exact List.mem_zipIdx_iff_getElem?.mp (List.mem_mergeSort.mp hp)
  have hsort : (us.zipIdx.mergeSort fun s t => s.1.historyOrder t.1 != .gt).map Prod.fst =
      us.mergeSort fun s t => (s.historyOrder t).isLE := by
    rw [List.map_mergeSort (s := fun s t => (s.historyOrder t).isLE), List.zipIdx_map_fst]
    intro s _ t _
    exact hle _
  rw [sortedPlaces, List.map_map, ← hsort, List.map_map]
  exact List.map_congr_left hplace

lemma Sorted.map_sortedPlaces_eq {ts us : List Transaction} (hs : Sorted ts) (hperm : us.Perm ts) :
    (sortedPlaces us).map (us[·]?) = ts.map some := by
  rw [map_sortedPlaces, hs.mergeSort_eq hperm]

end Transaction

namespace Account

open Transaction

lemma history_insert (a : Account) (t : Transaction) :
    (a.insert t).history = a.history.takeWhile (·.isBefore t) ++ t :: a.history.dropWhile (·.isBefore t) := rfl

lemma history_insert_of_cut {a : Account} {t : Transaction} {before after : List Transaction}
    (hcut : a.history = before ++ after) (hb : ∀ s ∈ before, s.isBefore t) (ha : ∀ s ∈ after, ¬ s.isBefore t) :
    (a.insert t).history = before ++ t :: after := by
  have hhead : after.takeWhile (·.isBefore t) = [] ∧ after.dropWhile (·.isBefore t) = after := by
    cases after with
    | nil => exact ⟨rfl, rfl⟩
    | cons s after =>
      have hs : s.isBefore t = false := by simpa using ha s List.mem_cons_self
      simp [hs]
  rw [history_insert, hcut, List.takeWhile_append_of_pos hb, List.dropWhile_append_of_pos hb, hhead.1, hhead.2,
    List.append_nil]

lemma exists_cut {ts : List Transaction} (hs : Sorted ts) (t : Transaction) :
    ∃ before after, ts = before ++ after ∧ (∀ s ∈ before, s.isBefore t) ∧ ∀ s ∈ after, ¬ s.isBefore t := by
  induction ts with
  | nil => exact ⟨[], [], rfl, by simp, by simp⟩
  | cons r ts ih =>
    obtain ⟨hr, hts⟩ := List.pairwise_cons.mp hs
    by_cases hrt : r.isBefore t
    · obtain ⟨before, after, rfl, hb, ha⟩ := ih hts
      refine ⟨r :: before, after, rfl, ?_, ha⟩
      intro s hs
      rcases List.mem_cons.mp hs with rfl | hs
      · exact hrt
      · exact hb s hs
    · refine ⟨[], r :: ts, rfl, by simp, ?_⟩
      intro s hs hst
      rcases List.mem_cons.mp hs with rfl | hs
      · exact hrt hst
      · exact hrt (isBefore_trans (hr s hs) hst)

lemma sorted_insert {a : Account} {t : Transaction} (hs : Sorted a.history) (hid : ∀ s ∈ a.history, s.id ≠ t.id) :
    Sorted (a.insert t).history := by
  obtain ⟨before, after, hcut, hb, ha⟩ := exists_cut hs t
  rw [hcut] at hs hid
  rw [history_insert_of_cut hcut hb ha]
  obtain ⟨hsb, hsa, hsba⟩ := List.pairwise_append.mp hs
  refine List.pairwise_append.mpr ⟨hsb, List.pairwise_cons.mpr ⟨?_, hsa⟩, ?_⟩
  · intro s hs'
    exact isBefore_of_not_isBefore (hid s (List.mem_append_right _ hs')).symm (ha s hs')
  · intro r hr s hs'
    rcases List.mem_cons.mp hs' with rfl | hs'
    · exact hb r hr
    · exact hsba r hr s hs'

lemma perm_insert (a : Account) (t : Transaction) : (a.insert t).history.Perm (t :: a.history) := by
  rw [history_insert]
  refine List.perm_middle.trans (List.Perm.cons t ?_)
  rw [List.takeWhile_append_dropWhile]

lemma history_sublist_insert (a : Account) (t : Transaction) : a.history.Sublist (a.insert t).history := by
  have hcut : (a.history.takeWhile (·.isBefore t) ++ a.history.dropWhile (·.isBefore t)).Sublist
      (a.insert t).history := (List.sublist_cons_self t _).append_left _
  rwa [List.takeWhile_append_dropWhile] at hcut

end Account

end Passbook
