import Passbook.Proofs.Manager.Balance

/-! Stores with room for the deposits of a user: what is recorded and what is still to come can be written out over one
scale. Such a store never refuses a deposit of the user for its amount, and the balance is exact. -/

namespace Passbook

open Amount

namespace Store

def amountsFor (user : UserId) (ts : List Transaction) : List Amount :=
  (ts.filter (·.userId == user)).map Transaction.amount

lemma amountsFor_of_ne {user : UserId} {ts : List Transaction} (h : ∀ t ∈ ts, t.userId ≠ user) :
    amountsFor user ts = [] := by
  rw [amountsFor, List.map_eq_nil_iff, List.filter_eq_nil_iff]
  intro t ht huser
  exact h t ht (beq_iff_eq.mp huser)

lemma fitTogether_of_one_user (user : UserId) {ts : List Transaction} (hts : ∀ t ∈ ts, t.userId = user)
    (h : FitTogether (amountsFor user ts)) (other : UserId) : FitTogether (amountsFor other ts) := by
  by_cases ho : other = user
  · rwa [ho]
  · rw [amountsFor_of_ne fun t ht he => ho (he.symm.trans (hts t ht))]
    unfold FitTogether
    decide +kernel

def HasRoom (s : Store) (user : UserId) (ts : List Transaction) : Prop :=
  ∃ scale ≤ maxScale, Fits scale (s.amounts user ++ amountsFor user ts)

namespace HasRoom

variable {s : Store} {user : UserId} {t : Transaction} {ts : List Transaction}

lemma of_fitTogether (hs : s.Sound) (hv : ∀ t ∈ ts, t.isValid)
    (h : FitTogether (s.amounts user ++ amountsFor user ts)) : s.HasRoom user ts := by
  refine ⟨_, largestScale_le _, h.fits ?_⟩
  intro b hb
  rcases List.mem_append.mp hb with hb | hb
  · exact hs.amounts_nonneg user b hb
  · obtain ⟨t, ht, rfl⟩ := List.mem_map.mp hb
    have hpos : 0 < t.amount.coefficient := by
      simpa [Transaction.isValid, isPositive] using hv t (List.mem_of_mem_filter ht)
    exact hpos.le

lemma of_subperm (h : s.HasRoom user ts) {s' : Store} {ts' : List Transaction}
    (hsub : (s'.amounts user ++ amountsFor user ts').Subperm (s.amounts user ++ amountsFor user ts)) :
    s'.HasRoom user ts' := by
  obtain ⟨scale, hscale, hfits⟩ := h
  exact ⟨scale, hscale, hfits.of_subperm hsub⟩

lemma perm (h : s.HasRoom user ts) {ts' : List Transaction} (hperm : ts.Perm ts') : s.HasRoom user ts' :=
  h.of_subperm (((hperm.symm.filter _).map _).append_left _).subperm

lemma skip {us : List Transaction} (h : s.HasRoom user (us ++ ts)) : s.HasRoom user ts :=
  h.of_subperm ((((List.sublist_append_right us ts).filter _).map _).append_left _).subperm

lemma register (h : s.HasRoom user ts) (other : UserId) : (s.register other).HasRoom user ts := by
  apply h.of_subperm
  rw [amounts, amounts, history_register]

lemma put (h : s.HasRoom user (t :: ts)) (hreg : s.isRegistered t.userId) : (s.put t).HasRoom user ts := by
  apply h.of_subperm
  by_cases hu : t.userId = user
  · subst hu
    have hrec : ((s.put t).amounts t.userId).Perm (t.amount :: s.amounts t.userId) := (history_put_self hreg).map _
    have hcome : amountsFor t.userId (t :: ts) = t.amount :: amountsFor t.userId ts := by simp [amountsFor]
    rw [hcome]
    exact ((hrec.append_right _).trans List.perm_middle.symm).subperm
  · have hcome : amountsFor user (t :: ts) = amountsFor user ts := by simp [amountsFor, hu]
    rw [amounts, amounts, history_put_of_ne hu, hcome]

lemma fits (h : s.HasRoom user ts) {xs : List Amount} (hpre : xs <+: s.amounts user ++ amountsFor user ts) :
    ∃ b, sum? xs = some b ∧ b.value = exactSum xs := by
  obtain ⟨scale, hscale, hfits⟩ := h
  have hxs := hfits.of_prefix hpre
  obtain ⟨b, hb⟩ := Option.isSome_iff_exists.mp (hxs.isSome_sum? hscale)
  exact ⟨b, hb, hxs.value_sum? hscale hb⟩

lemma find_eq (h : s.HasRoom user ts) (hreg : s.isRegistered user) :
    ∃ b, s.find user = .ok ⟨user, b⟩ ∧ b.value = exactSum (s.amounts user) := by
  obtain ⟨b, hb, hv⟩ := h.fits ⟨_, rfl⟩
  exact ⟨b, find_eq_ok_iff.mpr ⟨hreg, rfl, hb⟩, hv⟩

lemma refusal?_eq (h : s.HasRoom t.userId (t :: ts)) (hreg : s.isRegistered t.userId) :
    s.refusal? t = if s.isRecorded t.id then some (.conflict t.id) else none := by
  obtain ⟨a, ha⟩ := Option.isSome_iff_exists.mp hreg
  have hpre : s.amounts t.userId ++ [t.amount] <+: s.amounts t.userId ++ amountsFor t.userId (t :: ts) := by
    have hcome : amountsFor t.userId (t :: ts) = [t.amount] ++ amountsFor t.userId ts := by simp [amountsFor]
    rw [hcome, ← List.append_assoc]
    exact List.prefix_append _ _
  obtain ⟨b, hb, -⟩ := h.fits hpre
  rw [sum?_append, ← total?_of_account? ha] at hb
  have hsome : (a.total?.bind (Amount.add? · t.amount)).isNone = false := by
    obtain ⟨c, hc, hadd⟩ := Option.bind_eq_some_iff.mp hb
    obtain ⟨d, hd, -⟩ := exists_of_foldlM_cons hadd
    simp [hc, hd]
  simp [refusal?, ha, hsome]

lemma settle {r : Request} (h : s.HasRoom user (r.deposit?.toList ++ ts)) (fired : Option Interruption) :
    (r.settle fired s).2.HasRoom user ts := by
  rcases r.settle_cases fired s with hs | ⟨other, -, -, hs⟩ | ⟨t, rfl, hv, href, hs⟩ <;> rw [hs]
  · exact h.skip
  · exact h.skip.register other
  · rw [Request.deposit?_of_valid hv] at h
    exact h.put (isRegistered_of_refusal? href)

end HasRoom

end Store

end Passbook
