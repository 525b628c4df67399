import Passbook.Proofs.Store.Commands
import Passbook.Proofs.Store.Writes
import Passbook.Proofs.Traffic.Basic

/-! An identity is recorded once, whatever becomes of the calls that carry it. The records of the store are traced to
the calls that wrote them, one call for each, and each call that is still on its way, or over, to what it has done. -/

namespace Passbook.Traffic

open Work Store

variable {ι σ : Type} {view : σ → Store}

def NoConflict (e : StoreError) : Prop := ∀ id, e ≠ .conflict id

def Unsettled (o : Outcome Answer) : Prop := o.answer.Unsettled

def Settles (t : Transaction) (r : Except StoreError Unit) (o : Outcome Answer) : Prop := o.answer.Settles t r

/-- How far a call has come. An add has its record still to write, or the result of the store is known. -/
def Stage (view : σ → Store) (s : Store) (written : Prop) : Request → Flight σ Answer → Prop
  | .addTransaction t, fl =>
    ¬ written ∧ fl.Meets (Once view (Store.record t) Unsettled (Settles t)) Unsettled ∨
      ∃ r, fl.Meets (Quiet view (Settles t r)) (Settles t r) ∧ (r = .ok () ↔ written) ∧
        ∀ id, r = .error (.conflict id) → s.isRecorded t.id
  | .createUser user, fl =>
    ¬ written ∧ (fl.Meets (Once view (Store.addUser user) (fun _ => True) fun _ _ => True) (fun _ => True) ∨
      fl.Meets (Quiet view fun _ => True) fun _ => True)
  | _, fl => ¬ written ∧ fl.Meets (Quiet view fun _ => True) fun _ => True

/-- The calls that wrote the records of the index, with what they wrote. -/
structure Traced (view : σ → Store) (requests : ι → Request) (w : Traffic ι σ Answer)
    (writes : List (ι × Transaction)) : Prop where
  consistent : (view w.state).Consistent
  index_eq : (view w.state).index = writes.map Prod.snd
  writers_nodup : (writes.map Prod.fst).Nodup
  request_eq : ∀ p ∈ writes, requests p.1 = .addTransaction p.2
  stage : ∀ i, Stage view (view w.state) (i ∈ writes.map Prod.fst) (requests i) (w.flights i)

lemma Stage.mono {s s' : Store} {written : Prop} {req : Request} {fl : Flight σ Answer}
    (hs : ∀ id, s.isRecorded id → s'.isRecorded id) (h : Stage view s written req fl) :
    Stage view s' written req fl := by
  cases req with
  | addTransaction t =>
    rcases h with h | ⟨r, hm, hw, hc⟩
    · exact .inl h
    · exact .inr ⟨r, hm, hw, fun id hr => hs _ (hc id hr)⟩
  | createUser user => exact h
  | balance user => exact h
  | history user page size => exact h

lemma Stage.drop {s : Store} {written : Prop} {req : Request} {fl : Flight σ Answer}
    (h : Stage view s written req fl) : Stage view s written req fl.drop := by
  cases req with
  | addTransaction t =>
    rcases h with ⟨hw, hm⟩ | ⟨r, hm, hw, hc⟩
    · exact .inl ⟨hw, hm.drop⟩
    · exact .inr ⟨r, hm.drop, hw, hc⟩
  | createUser user => exact ⟨h.1, h.2.imp (·.drop) (·.drop)⟩
  | balance user => exact ⟨h.1, h.2.drop⟩
  | history user page size => exact ⟨h.1, h.2.drop⟩

lemma Stage.next {s : σ} {written : Prop} {req : Request} {fl : Flight σ Answer}
    (h : Stage view (view s) written req fl) (preferred : Interruption) (m : Moment) :
    let fl' := (fl.next preferred m s).1
    let s' := view (fl.next preferred m s).2
    (s' = view s ∧ Stage view s' written req fl') ∨
    (∃ user, ¬ (view s).isRegistered user ∧ s' = (view s).register user ∧ Stage view s' written req fl') ∨
    ∃ t, req = .addTransaction t ∧ (view s).refusal? t = none ∧ s' = (view s).put t ∧ ¬ written ∧
      Stage view s' True req fl' := by
  intro fl' s'
  cases req with
  | addTransaction t =>
    rcases h with ⟨hw, hm⟩ | ⟨r, hm, hw, hc⟩
    · rcases Flight.next_once (fun r o ho => .inr ho) hm s with ⟨hv, hm'⟩ | ⟨hv, hm'⟩
      · exact .inl ⟨hv, .inl ⟨hw, hm'⟩⟩
      · cases href : (view s).refusal? t with
        | none =>
          rw [record_of_accepted href] at hv hm'
          exact .inr (.inr ⟨t, rfl, href, hv, hw, .inr ⟨.ok (), hm', by simp, by simp⟩⟩)
        | some e =>
          rw [record_of_refused href] at hv hm'
          refine .inl ⟨hv, .inr ⟨.error e, hm', by simp [hw], ?_⟩⟩
          intro id he
          change (view (fl.next preferred m s).2).isRecorded t.id
          rw [hv]
          exact isRecorded_of_conflict (href.trans (congrArg some (Except.error.inj he)))
    · obtain ⟨hv, hm'⟩ := Flight.next_quiet hm s
      refine .inl ⟨hv, .inr ⟨r, hm', hw, ?_⟩⟩
      intro id hr
      change (view (fl.next preferred m s).2).isRecorded t.id
      rw [hv]
      exact hc id hr
  | createUser user =>
    obtain ⟨hw, hm | hm⟩ := h
    · rcases Flight.next_once (fun _ _ ho => ho) hm s with ⟨hv, hm'⟩ | ⟨hv, hm'⟩
      · exact .inl ⟨hv, hw, .inl hm'⟩
      · by_cases hreg : (view s).isRegistered user
        · rw [addUser_of_registered hreg] at hv
          exact .inl ⟨hv, hw, .inr hm'⟩
        · rw [addUser_of_new hreg] at hv
          exact .inr (.inl ⟨user, hreg, hv, hw, .inr hm'⟩)
    · obtain ⟨hv, hm'⟩ := Flight.next_quiet hm s
      exact .inl ⟨hv, hw, .inr hm'⟩
  | balance user =>
    obtain ⟨hw, hm⟩ := h
    obtain ⟨hv, hm'⟩ := Flight.next_quiet hm s
    exact .inl ⟨hv, hw, hm'⟩
  | history user page size =>
    obtain ⟨hw, hm⟩ := h
    obtain ⟨hv, hm'⟩ := Flight.next_quiet hm s
    exact .inl ⟨hv, hw, hm'⟩

variable {requests : ι → Request} {w : Traffic ι σ Answer} {writes : List (ι × Transaction)}

lemma Traced.start {repositories : ι → Repository σ} (hr : ∀ i, (repositories i).Wraps view NoConflict)
    (signals : ι → Signal) (m : Moment) {s : σ} (hs : (view s).Consistent) (hnone : (view s).index = []) :
    Traced view requests (start requests repositories signals m s) [] where
  consistent := hs
  index_eq := hnone
  writers_nodup := List.nodup_nil
  request_eq := by simp
  stage i := by
    have hno : ¬ i ∈ ([] : List (ι × Transaction)).map Prod.fst := List.not_mem_nil
    simp only [Traffic.start]
    cases hreq : requests i with
    | addTransaction t =>
      exact .inl ⟨hno, Request.once_add (hr i) (fun e he => he) (signals i) t,
        fun g hg started i => Request.unsettled_interrupted _ _ t hg started i⟩
    | createUser user =>
      exact ⟨hno, .inl ⟨Request.once_createUser (hr i) (signals i) user, fun _ _ _ _ => trivial⟩⟩
    | balance user => exact ⟨hno, Request.quiet_balance (hr i) (signals i) user, fun _ _ _ _ => trivial⟩
    | history user page size =>
      exact ⟨hno, Request.quiet_history (hr i) (signals i) user page size, fun _ _ _ _ => trivial⟩

lemma Traced.mem_writes (h : Traced view requests w writes) {i : ι} {t u : Transaction}
    (hreq : requests i = .addTransaction t) (ha : w.answer? i = some (.transaction (.ok u))) :
    u = t ∧ (i, t) ∈ writes := by
  obtain ⟨o, hfl, ho⟩ := exists_answered ha
  have hst := h.stage i
  rw [hreq, hfl] at hst
  rcases hst with ⟨-, e, he, -⟩ | ⟨r, hm, hw, -⟩
  · rw [ho] at he
    cases he
  · obtain ⟨rfl, rfl⟩ := hm.ok ho
    obtain ⟨⟨j, v⟩, hp, rfl⟩ := List.mem_map.mp (hw.mp rfl)
    have hv : v = u := by
      have hjv := h.request_eq _ hp
      rw [hreq] at hjv
      exact (Request.addTransaction.inj hjv).symm
    exact ⟨rfl, hv ▸ hp⟩

lemma Traced.isRecorded (h : Traced view requests w writes) {i : ι} {t : Transaction}
    (hreq : requests i = .addTransaction t)
    (ha : w.answer? i = some (.transaction (.error .transactionAlreadyExists))) : (view w.state).isRecorded t.id := by
  obtain ⟨o, hfl, ho⟩ := exists_answered ha
  have hst := h.stage i
  rw [hreq, hfl] at hst
  rcases hst with ⟨-, e, he, hne⟩ | ⟨r, hm, -, hc⟩
  · rw [ho] at he
    exact absurd (Except.error.inj (Answer.transaction.inj he)).symm hne
  · obtain ⟨id, hr⟩ := hm.exists ho
    exact hc id hr

lemma Traced.mem_index (h : Traced view requests w writes) {i : ι} {t : Transaction} (hp : (i, t) ∈ writes) :
    t ∈ (view w.state).index :=
  h.index_eq ▸ List.mem_map_of_mem hp

lemma Traced.writer_unique (h : Traced view requests w writes) {i j : ι} {t u : Transaction} (hi : (i, t) ∈ writes)
    (hj : (j, u) ∈ writes) (hid : t.id = u.id) : i = j := by
  have hn : (writes.map fun p => p.2.id).Nodup := by
    have hids := h.consistent.ids_nodup
    rwa [h.index_eq, List.map_map] at hids
  exact congrArg Prod.fst (List.inj_on_of_nodup_map hn hi hj hid)

lemma mem_writers_append {writes more : List (ι × Transaction)} {i j : ι} (hmore : ∀ p ∈ more, p.1 = i) (hij : j ≠ i) :
    (j ∈ (writes ++ more).map Prod.fst) = (j ∈ writes.map Prod.fst) := by
  have hno : j ∉ more.map Prod.fst := by
    intro hj
    obtain ⟨p, hp, rfl⟩ := List.mem_map.mp hj
    exact hij (hmore p hp)
  simp only [List.map_append, List.mem_append, hno, or_false]

section Runs

variable [DecidableEq ι]

lemma Traced.stage_update (h : Traced view requests w writes) {i : ι} {s : Store} {fl : Flight σ Answer}
    (more : List (ι × Transaction)) (hmore : ∀ p ∈ more, p.1 = i)
    (hrec : ∀ id, (view w.state).isRecorded id → s.isRecorded id)
    (hi : Stage view s (i ∈ (writes ++ more).map Prod.fst) (requests i) fl) (j : ι) :
    Stage view s (j ∈ (writes ++ more).map Prod.fst) (requests j) (Function.update w.flights i fl j) := by
  by_cases hij : j = i
  · subst hij
    simpa using hi
  -- The stages of the other calls only ask that records stay.
  · rw [Function.update_of_ne hij, mem_writers_append hmore hij]
    exact (h.stage j).mono hrec

lemma Traced.step (h : Traced view requests w writes) (i : ι) (preferred : Interruption) :
    ∃ more, Traced view requests (w.turn (.step i preferred)) (writes ++ more) := by
  have hnext := (h.stage i).next preferred w.moment
  simp only at hnext
  generalize hfl : (w.flights i).next preferred w.moment w.state = x at hnext
  have hturn : w.turn (.step i preferred) =
      { w with state := x.2, flights := Function.update w.flights i x.1 } := by simp [turn, hfl]
  rw [hturn]
  rcases hnext with ⟨hv, hst⟩ | ⟨user, hnew, hv, hst⟩ | ⟨t, hreq, href, hv, hw, hst⟩
  · have hstages := h.stage_update [] (by simp) (fun id hid => hv ▸ hid) (by simpa using hst)
    refine ⟨[], ?_⟩
    rw [List.append_nil] at *
    exact ⟨by simpa [hv] using h.consistent, by simpa [hv] using h.index_eq, h.writers_nodup, h.request_eq, hstages⟩
  · have hkept : ∀ id, (view w.state).isRecorded id → (view x.2).isRecorded id := by
      intro id hid
      rw [hv]
      exact hid
    have hstages := h.stage_update [] (by simp) hkept (by simpa using hst)
    refine ⟨[], ?_⟩
    rw [List.append_nil] at *
    exact ⟨by simpa [hv] using h.consistent.register hnew, (congrArg Store.index hv).trans h.index_eq, h.writers_nodup,
      h.request_eq, hstages⟩
  · have hkept : ∀ id, (view w.state).isRecorded id → (view x.2).isRecorded id := by
      intro id hid
      simp [hv, isRecorded_put, hid]
    refine ⟨[(i, t)], ?_, ?_, ?_, ?_, h.stage_update [(i, t)] (by simp) hkept (by simpa using hst)⟩
    · simpa [hv] using h.consistent.put (isRegistered_of_refusal? href) (not_isRecorded_of_refusal? href)
    · simp [hv, Store.put, h.index_eq]
    · rw [List.map_append]
      refine List.nodup_append.mpr ⟨h.writers_nodup, List.nodup_singleton _, ?_⟩
      rintro j hj _ hi rfl
      have hji : j = i := List.mem_singleton.mp hi
      exact hw (hji ▸ hj)
    · simpa [or_imp, forall_and, hreq] using h.request_eq

lemma Traced.turn (h : Traced view requests w writes) (t : Turn ι) :
    ∃ more, Traced view requests (w.turn t) (writes ++ more) := by
  cases t with
  | pass ms => exact ⟨[], by simpa using ⟨h.consistent, h.index_eq, h.writers_nodup, h.request_eq, h.stage⟩⟩
  | cancel family => exact ⟨[], by simpa using ⟨h.consistent, h.index_eq, h.writers_nodup, h.request_eq, h.stage⟩⟩
  | step i preferred => exact h.step i preferred
  | drop i =>
    refine ⟨[], ?_⟩
    rw [List.append_nil]
    refine ⟨h.consistent, h.index_eq, h.writers_nodup, h.request_eq, ?_⟩
    intro j
    by_cases hij : j = i
    · subst hij
      simpa [Traffic.turn] using (h.stage j).drop
    · simpa [Traffic.turn, Function.update_of_ne hij] using h.stage j

lemma Traced.play (h : Traced view requests w writes) (turns : List (Turn ι)) :
    ∃ more, Traced view requests (w.play turns) (writes ++ more) := by
  induction turns generalizing w writes with
  | nil => exact ⟨[], by rwa [List.append_nil]⟩
  | cons t turns ih =>
    obtain ⟨more, hm⟩ := h.turn t
    obtain ⟨rest, hr⟩ := ih hm
    exact ⟨more ++ rest, by rwa [List.append_assoc] at hr⟩

end Runs

/-- However calls through any repositories in front of one store overlap, wait, fail and are interrupted: an identity
has at most one record, which is one that was submitted; at most one call is told that it recorded it, and then the
record is the one of that call; and a call that is told of a duplicate finds the one record there for good. -/
theorem identity_recorded_once [DecidableEq ι] {repositories : ι → Repository σ}
    (hr : ∀ i, (repositories i).Wraps view NoConflict) (requests : ι → Request) (signals : ι → Signal) (m : Moment)
    {users : List UserId} {s : σ} (hs : view s = after (users.map Command.addUser)) (turns later : List (Turn ι)) :
    let w := (start requests repositories signals m s).play turns
    let w' := w.play later
    (∀ i j t u x y, requests i = .addTransaction t → requests j = .addTransaction u → t.id = u.id →
      w.answer? i = some (.transaction (.ok x)) → w.answer? j = some (.transaction (.ok y)) → i = j) ∧
    (∀ id, ((view w.state).recordsOf id).length ≤ 1 ∧ ((view w.state).index.map Transaction.id).count id ≤ 1) ∧
    (∀ t ∈ (view w.state).records ++ (view w.state).index, ∃ i, requests i = .addTransaction t) ∧
    (∀ i t x, requests i = .addTransaction t → w.answer? i = some (.transaction (.ok x)) →
      x = t ∧ (view w'.state).recordsOf t.id = [x]) ∧
    ∀ i t, requests i = .addTransaction t →
      w.answer? i = some (.transaction (.error .transactionAlreadyExists)) →
      ∃ r, (view w.state).recordsOf t.id = [r] ∧ (view w'.state).recordsOf t.id = [r] := by
  intro w w'
  have hstart : Traced view requests (start requests repositories signals m s) [] :=
    Traced.start hr signals m (hs ▸ consistent_after _) (hs ▸ index_after_addUser users)
  obtain ⟨writes, hw⟩ := hstart.play turns
  obtain ⟨more, hw'⟩ := hw.play later
  have hstays : ∀ r ∈ (view w.state).index, (view w.state).recordsOf r.id = [r] ∧ (view w'.state).recordsOf r.id = [r] := by
    intro r hmem
    have hmem' : r ∈ (view w'.state).index := by
      rw [hw.index_eq] at hmem
      rw [hw'.index_eq, List.map_append]
      exact List.mem_append_left _ hmem
    exact ⟨hw.consistent.recordsOf_id hmem, hw'.consistent.recordsOf_id hmem'⟩
  refine ⟨?_, ?_, ?_, ?_, ?_⟩
  · intro i j t u x y hi hj hid hx hy
    exact hw.writer_unique (hw.mem_writes hi hx).2 (hw.mem_writes hj hy).2 hid
  · intro id
    exact ⟨hw.consistent.length_recordsOf_le id, List.nodup_iff_count_le_one.mp hw.consistent.ids_nodup id⟩
  · intro t ht
    have hmem : t ∈ (view w.state).index := by
      rcases List.mem_append.mp ht with ht | ht
      · exact hw.consistent.records_perm.mem_iff.mp ht
      · exact ht
    rw [hw.index_eq] at hmem
    obtain ⟨⟨i, u⟩, hp, rfl⟩ := List.mem_map.mp hmem
    exact ⟨i, hw.request_eq _ hp⟩
  · intro i t x hi hx
    obtain ⟨rfl, hp⟩ := hw.mem_writes hi hx
    exact ⟨rfl, (hstays x (hw.mem_index hp)).2⟩
  · intro i t hi ha
    obtain ⟨r, hmem, hid⟩ := List.mem_map.mp (isRecorded_iff.mp (hw.isRecorded hi ha))
    exact ⟨r, hid ▸ hstays r hmem⟩

/-- A user is registered and a record is sent twice. The first time the store answers after 5 ms, too late. -/
def sentTwice : Fin 3 → Request
  | 0 => .createUser default
  | 1 => .addTransaction (.ofNumbers 1 0 1 0)
  | 2 => .addTransaction (.ofNumbers 1 60 1 0)

def slowOnce : Fin 3 → FaultPlan
  | 1 => fun _ => some { after := 5 }
  | _ => fun _ => none

theorem identity_recorded_once_after_deadline :
    let w := (start sentTwice (fun i => Store.repository.faulty (slowOnce i)) (fun i => ⟨i, some 3⟩) {} { state := {} }).play
      (List.replicate 5 (.step 0 .cancelled) ++ List.replicate 6 (.step 1 .cancelled) ++ [.pass 2] ++
        List.replicate 5 (.step 2 .cancelled) ++ [.pass 1, .step 1 .cancelled])
    w.answer? 1 = some (.transaction (.error .deadlineExceeded)) ∧
    w.answer? 2 = some (.transaction (.error .transactionAlreadyExists)) ∧
    ∃ r, w.state.state.recordsOf (Transaction.ofNumbers 1 0 1 0).id = [r] := by
  have hr : ∀ i, (Store.repository.faulty (slowOnce i)).Wraps Counted.state NoConflict := by
    intro i
    apply (Repository.wraps_store NoConflict).faulty
    intro m f e hf he
    have hnone : f.error = none := by
      unfold slowOnce at hf
      split at hf
      · cases hf
        rfl
      · cases hf
    rw [hnone] at he
    cases he
  have hs : Counted.state { state := ({} : Store) } = after (([] : List UserId).map Command.addUser) := rfl
  obtain ⟨-, -, -, -, hexists⟩ := identity_recorded_once hr sentTwice (fun i => ⟨i, some 3⟩) {} hs
    (List.replicate 5 (.step 0 .cancelled) ++ List.replicate 6 (.step 1 .cancelled) ++ [.pass 2] ++
      List.replicate 5 (.step 2 .cancelled) ++ [.pass 1, .step 1 .cancelled]) []
  obtain ⟨r, hone, -⟩ := hexists 2 _ rfl rfl
  exact ⟨rfl, rfl, r, hone⟩

end Passbook.Traffic
