import Mathlib.Data.List.Dedup
import Mathlib.Data.List.Induction
import Passbook.Proofs.Manager.Reordering
import Passbook.Proofs.Traffic.Commit

/-! Calls that overlap on one store do what they do one after the other, in the order of their effects. -/

namespace Passbook

open Work Store

def Turn.call? {ι : Type} : Turn ι → Option ι
  | step i _ => some i
  | _ => none

section Reads

variable {v : Visit} {s : Store} {user : UserId} {u : User}

lemma Visit.answer?_balance (hun : v.IsUnfired) (hr : v.request = .balance user) (hu : s.find user = .ok u) :
    v.answer? s = some (.balance (.ok u.balance)) := by
  have hnone : v.signal.check v.moment = none := hun
  rw [v.answer?_eq, hr, hnone]
  simp [Request.settle, Ledger.balance, Ledger.interruptible, hu, Except.mapError, Except.map]

lemma Visit.answer?_history (hun : v.IsUnfired) {number size : Nat} {p : Page}
    (hr : v.request = .history user number size) (hp : Page.of? number size = some p) (hu : s.find user = .ok u) :
    v.answer? s = some (.history (.ok (p.select (s.history user)))) := by
  have hnone : v.signal.check v.moment = none := hun
  rw [v.answer?_eq, hr, hnone]
  simp [Request.settle, Ledger.history, hp, Ledger.interruptible, hu, page_of_registered (find_eq_ok_iff.mp hu).1,
    Except.mapError]

end Reads

namespace Traffic

variable {ι : Type} {visits : ι → Visit} {turns : List (Turn ι)} {w : Traffic ι Store Answer} {order : List ι}

lemma keptIn_served {before after : List ι} (h : before <+: after) :
    (served (before.map visits)).KeptIn (served (after.map visits)) := by
  obtain ⟨more, rfl⟩ := h
  rw [List.map_append, served_append]
  exact KeptIn.serve _ _

structure Linearized (visits : ι → Visit) (turns : List (Turn ι)) (w : Traffic ι Store Answer) (order : List ι) :
    Prop where
  nodup : order.Nodup
  moved i : i ∈ order → Moved turns i
  state : w.state = served (order.map visits)
  pending i : i ∉ order → (w.flights i).Pending (visits i) w.state
  settled before i after : order = before ++ i :: after →
    (w.flights i).Over fun o => (visits i).answer? (served (before.map visits)) = some o.answer

namespace Linearized

lemma exists_over (h : Linearized visits turns w order) {i : ι} (hi : i ∈ order) :
    ∃ good, (w.flights i).Over good := by
  obtain ⟨before, after, rfl⟩ := List.append_of_mem hi
  exact ⟨_, h.settled before i after rfl⟩

lemma mem_order (h : Linearized visits turns w order) {i : ι} {a : Answer} (ha : w.answer? i = some a) : i ∈ order := by
  obtain ⟨o, hfl, -⟩ := exists_answered ha
  by_contra hi
  have hpending := h.pending i hi
  rw [hfl] at hpending
  exact hpending

lemma answer?_eq (h : Linearized visits turns w order) {before after : List ι} {i : ι} {a : Answer}
    (horder : order = before ++ i :: after) (ha : w.answer? i = some a) :
    (visits i).answer? (served (before.map visits)) = some a := by
  obtain ⟨o, hfl, rfl⟩ := exists_answered ha
  have hover := h.settled before i after horder
  rw [hfl] at hover
  exact hover

lemma exists_recorded (h : Linearized visits turns w order) {i : ι} {t : Transaction}
    (hr : (visits i).request = .addTransaction t)
    (ha : w.answer? i = some (.transaction (.error .transactionAlreadyExists))) :
    ∃ r, r.id = t.id ∧ w.state.recorded? t.id = some r := by
  obtain ⟨earlier, rest, horder⟩ := List.append_of_mem (h.mem_order ha)
  have hrec : (served (earlier.map visits)).isRecorded t.id := by
    by_contra hfree
    exact answer?_of_free hr hfree (h.answer?_eq horder ha)
  obtain ⟨r, hrecorded⟩ := Option.isSome_iff_exists.mp hrec
  have hid : r.id = t.id := by simpa using List.find?_some hrecorded
  refine ⟨r, hid, ?_⟩
  rw [h.state]
  exact (keptIn_served ⟨_, horder.symm⟩).recorded? t.id r hrecorded

variable [DecidableEq ι]

lemma keep (h : Linearized visits turns w order) {i : ι} {fl : Flight Store Answer} (m : Moment)
    (hpending : i ∉ order → fl.Pending (visits i) w.state)
    (hover : ∀ good, (w.flights i).Over good → fl.Over good) (t : Turn ι) :
    Linearized visits (turns ++ [t])
      { moment := m, state := w.state, flights := Function.update w.flights i fl } order where
  nodup := h.nodup
  moved j hj := (h.moved j hj).mono (List.subset_append_left _ _)
  state := h.state
  pending := by
    rw [Function.forall_update_iff w.flights fun j fl => j ∉ order → fl.Pending (visits j) w.state]
    exact ⟨hpending, fun j _ => h.pending j⟩
  settled before j after horder := by
    have hsettled := h.settled before j after horder
    by_cases hji : j = i
    · subst hji
      simpa using hover _ hsettled
    · simpa [Function.update_of_ne hji] using hsettled

lemma commit (h : Linearized visits turns w order) {i : ι} (hi : i ∉ order) {fl : Flight Store Answer}
    (hfl : fl.Over fun o => (visits i).answer? w.state = some o.answer) (m : Moment) (preferred : Interruption) :
    Linearized visits (turns ++ [.step i preferred])
      { moment := m, state := (visits i).after w.state, flights := Function.update w.flights i fl } (order ++ [i]) where
  nodup := List.nodup_append.mpr ⟨h.nodup, List.nodup_singleton i, by
    rintro j hj _ hi' rfl
    exact hi (List.mem_singleton.mp hi' ▸ hj)⟩
  moved j hj := by
    rcases List.mem_append.mp hj with hj | hj
    · exact (h.moved j hj).mono (List.subset_append_left _ _)
    · rw [List.mem_singleton.mp hj]
      exact ⟨preferred, by simp⟩
  state := by
    rw [List.map_append, served_append, ← h.state]
    rfl
  pending j hj := by
    obtain ⟨hj, hji⟩ : j ∉ order ∧ j ≠ i := by simpa using hj
    have hgrows := (visits i).grows_after w.state
    simpa [Function.update_of_ne hji] using (h.pending j hj).mono fun user => hgrows.isRegistered
  settled before j after horder := by
    -- the new call is the last one, and any other cut is a cut of the order before
    rcases List.eq_nil_or_concat after with rfl | ⟨after, k, rfl⟩
    · obtain ⟨rfl, hij⟩ := List.append_inj' horder rfl
      obtain rfl : i = j := by simpa using hij
      simpa [← h.state] using hfl
    · have hcut : order ++ [i] = (before ++ j :: after) ++ [k] := by simpa using horder
      obtain ⟨rfl, hik⟩ := List.append_inj' hcut rfl
      have hji : j ≠ i := by
        rintro rfl
        exact hi (by simp)
      simpa [Function.update_of_ne hji] using h.settled before j after rfl

lemma turn (h : Linearized visits turns w order) {t : Turn ι} (hun : ∀ i preferred, t = .step i preferred →
      (visits i).IsUnfired ∧ (visits i).signal.check w.moment = none)
    (hread : ∀ user, w.state.isRegistered user → ∃ u, w.state.find user = .ok u) :
    Linearized visits (turns ++ [t]) (w.turn t) (order ++ w.commits t) := by
  have hmoved : ∀ i ∈ order, Moved (turns ++ [t]) i := fun i hi => (h.moved i hi).mono (List.subset_append_left _ _)
  cases t with
  | pass ms => simpa [commits] using ⟨h.nodup, hmoved, h.state, h.pending, h.settled⟩
  | cancel family => simpa [commits] using ⟨h.nodup, hmoved, h.state, h.pending, h.settled⟩
  | drop i =>
    have hnone : w.commits (.drop i) = [] := rfl
    rw [hnone, List.append_nil]
    exact h.keep _ (fun hi => (h.pending i hi).drop) (fun _ hover => hover.drop) _
  | step i preferred =>
    obtain ⟨hunfired, hcheck⟩ := hun i preferred rfl
    by_cases hi : i ∈ order
    · obtain ⟨good, hover⟩ := h.exists_over hi
      have hnone : w.commits (.step i preferred) = [] := by
        simpa [commits_step] using fun hn => hover.isOver_next hn preferred w.moment w.state
      obtain ⟨hs, -⟩ := Flight.next_over hover preferred w.moment w.state
      have hkeep := h.keep w.moment (absurd hi) (fun _ hgood => (Flight.next_over hgood preferred w.moment w.state).2)
        (.step i preferred)
      rw [hnone, List.append_nil]
      simpa only [Traffic.turn, hs] using hkeep
    · have hpending := h.pending i hi
      rcases hpending.next hunfired hcheck hread preferred with ⟨hs, hp⟩ | ⟨hs, hover, hfl⟩
      · have hnone : w.commits (.step i preferred) = [] := by simp [commits_step, hp.not_isOver]
        have hkeep := h.keep w.moment (fun _ => hp) (fun _ hgood => (Flight.next_over hgood preferred w.moment w.state).2)
          (.step i preferred)
        rw [hnone, List.append_nil]
        simpa only [Traffic.turn, hs] using hkeep
      · have hone : w.commits (.step i preferred) = [i] := by simp [commits_step, hpending.not_isOver, hover]
        have hcommit := h.commit hi hfl w.moment preferred
        rw [hone]
        simpa only [Traffic.turn, hs] using hcommit

end Linearized

section Runs

variable {σ β : Type}

def visit (requests : ι → Request) (signals : ι → Signal) (m : Moment) (i : ι) : Visit := ⟨requests i, signals i, m⟩

lemma hasRoom_served {calls order : List ι} {user : UserId}
    (hroom : Store.HasRoom {} user (submitted (calls.map visits))) (hn : order.Nodup) (hsub : order ⊆ calls) :
    (served (order.map visits)).HasRoom user [] := by
  obtain ⟨some, hperm, hsublist⟩ := List.subperm_of_subset hn hsub
  have hsome : Store.HasRoom {} user (submitted (some.map visits)) := by
    apply hroom.of_subperm
    exact (((((hsublist.map visits).filterMap _).filter _).map _).append_left _).subperm
  exact (hsome.perm ((hperm.map visits).filterMap _)).serve

lemma exists_cut_behind {α : Type} {xs ys : List α} (h : xs <+: ys) {a : α} (ha : a ∈ ys) (hn : a ∉ xs) :
    ∃ before after, ys = before ++ a :: after ∧ xs <+: before := by
  obtain ⟨more, rfl⟩ := h
  obtain ⟨before, after, rfl⟩ := List.append_of_mem ((List.mem_append.mp ha).resolve_left hn)
  exact ⟨xs ++ before, after, (List.append_assoc ..).symm, List.prefix_append xs before⟩

variable [DecidableEq ι]

def begun (turns : List (Turn ι)) : List ι := (turns.filterMap Turn.call?).dedup

lemma mem_begun {i : ι} : i ∈ begun turns ↔ Moved turns i := by
  rw [begun, List.mem_dedup, List.mem_filterMap]
  constructor
  · rintro ⟨t, ht, hi⟩
    cases t with
    | step j preferred =>
      obtain rfl : j = i := Option.some.inj hi
      exact ⟨preferred, ht⟩
    | pass | cancel | drop => cases hi
  · rintro ⟨preferred, ht⟩
    exact ⟨_, ht, rfl⟩

def Undisturbed (signals : ι → Signal) (w : Traffic ι σ β) (turns : List (Turn ι)) : Prop :=
  ∀ before i preferred later, turns = before ++ .step i preferred :: later →
    (signals i).check (w.play before).moment = none

lemma check_of_turn {signal : Signal} {w : Traffic ι σ β} (t : Turn ι) (h : signal.check (w.turn t).moment = none) :
    signal.check w.moment = none := by
  rw [Signal.check_eq_none_iff] at *
  cases t with
  | pass ms =>
    obtain ⟨hcancelled, hdeadline⟩ := h
    refine ⟨hcancelled, ?_⟩
    intro deadline hd
    have hlater : w.moment.now + ms < deadline := hdeadline deadline hd
    omega
  | cancel family =>
    obtain ⟨hcancelled, hdeadline⟩ := h
    refine ⟨?_, hdeadline⟩
    simp only [Signal.isCancelled, Traffic.turn, Moment.cancel, List.contains_cons, Bool.or_eq_false_iff] at hcancelled
    exact hcancelled.2
  | step | drop => exact h

lemma check_of_play {signal : Signal} {w : Traffic ι σ β} (turns : List (Turn ι))
    (h : signal.check (w.play turns).moment = none) : signal.check w.moment = none := by
  induction turns generalizing w with
  | nil => exact h
  | cons t turns ih => exact check_of_turn t (ih h)

lemma Undisturbed.of_play {signals : ι → Signal} {w : Traffic ι σ β}
    (h : ∀ i, (signals i).check (w.play turns).moment = none) : Undisturbed signals w turns := by
  rintro before i preferred later rfl
  apply check_of_play (.step i preferred :: later)
  have hi := h i
  rwa [play, List.foldl_append] at hi

def fresh (requests : ι → Request) (signals : ι → Signal) (m : Moment) : Traffic ι Store Answer :=
  start requests (fun _ => Store.repository) signals m {}

variable {requests : ι → Request} {signals : ι → Signal} {m : Moment}

lemma linearized_play (hun : Undisturbed signals (fresh requests signals m) turns)
    (hroom : ∀ user, Store.HasRoom {} user (submitted ((begun turns).map (visit requests signals m))))
    {now : List (Turn ι)} (hnow : now <+: turns) : Linearized (visit requests signals m) now
      ((fresh requests signals m).play now) ((fresh requests signals m).order now) := by
  induction now using List.reverseRecOn with
  | nil => exact ⟨List.nodup_nil, by simp [order], rfl, fun _ _ => rfl, by simp [order]⟩
  | append_singleton now t ih =>
    have hpart : now <+: turns := (List.prefix_append now [t]).trans hnow
    have h := ih hpart
    have hturn : Linearized (visit requests signals m) (now ++ [t]) (((fresh requests signals m).play now).turn t)
        ((fresh requests signals m).order now ++ ((fresh requests signals m).play now).commits t) := by
      apply h.turn
      · rintro i preferred rfl
        obtain ⟨later, hcut⟩ := hnow
        have hcheck := hun now i preferred later (by simp [← hcut])
        exact ⟨check_of_play now hcheck, hcheck⟩
      · intro user hreg
        have hbegun : (fresh requests signals m).order now ⊆ begun turns :=
          fun i hi => mem_begun.mpr ((h.moved i hi).mono hpart.subset)
        rw [h.state] at *
        obtain ⟨b, hb, -⟩ := (hasRoom_served (hroom user) h.nodup hbegun).find_eq hreg
        exact ⟨_, hb⟩
    have hplay : (fresh requests signals m).play (now ++ [t]) = ((fresh requests signals m).play now).turn t := by
      simp [play, List.foldl_append]
    rw [hplay, order_append]
    simpa [order] using hturn

/-- The calls in this order, one after the other from an empty store, do what they do in the run. A call that is
answered before another one begins comes before it. -/
structure IsLinearization (visits : ι → Visit) (w : Traffic ι Store Answer) (turns : List (Turn ι)) (order : List ι) :
    Prop where
  nodup : order.Nodup
  completed i : ((w.play turns).answer? i).isSome → i ∈ order
  begun i : i ∈ order → Moved turns i
  realTime before later i j : turns = before ++ later → ((w.play before).answer? i).isSome → ¬ Moved before j →
    j ∈ order → [i, j].Sublist order
  state : (w.play turns).state = served (order.map visits)
  answer before i after a : order = before ++ i :: after → (w.play turns).answer? i = some a →
    (visits i).answer? (served (before.map visits)) = some a

lemma order_grows (w : Traffic ι Store Answer) {before later : List (Turn ι)} (hcut : turns = before ++ later) :
    w.order before <+: w.order turns := by
  rw [hcut, order_append]
  exact List.prefix_append _ _

section Orders

variable (hun : Undisturbed signals (fresh requests signals m) turns)
  (hroom : ∀ user, Store.HasRoom {} user (submitted ((begun turns).map (visit requests signals m))))

include hun hroom

lemma isLinearization : IsLinearization (visit requests signals m) (fresh requests signals m) turns
    ((fresh requests signals m).order turns) := by
  have h := linearized_play hun hroom List.prefix_rfl
  refine ⟨h.nodup, ?_, h.moved, ?_, h.state, ?_⟩
  · intro i hi
    obtain ⟨a, ha⟩ := Option.isSome_iff_exists.mp hi
    exact h.mem_order ha
  · intro before later i j hcut hi hj hmem
    obtain ⟨a, ha⟩ := Option.isSome_iff_exists.mp hi
    have hbefore := linearized_play hun hroom ⟨later, hcut.symm⟩
    obtain ⟨more, hmore⟩ := order_grows (fresh requests signals m) hcut
    rw [← hmore] at hmem ⊢
    have hlater : j ∈ more := (List.mem_append.mp hmem).resolve_left fun hmem => hj (hbefore.moved j hmem)
    exact (List.singleton_sublist.mpr (hbefore.mem_order ha)).append (List.singleton_sublist.mpr hlater)
  · intro before i after a horder ha
    exact h.answer?_eq horder ha

lemma exists_later_cut {before later : List (Turn ι)} (hcut : turns = before ++ later) {i : ι}
    (hi : i ∉ (fresh requests signals m).order before) {a : Answer}
    (ha : ((fresh requests signals m).play turns).answer? i = some a) :
    ∃ earlier rest, (fresh requests signals m).order turns = earlier ++ i :: rest ∧
      (visit requests signals m i).IsUnfired ∧
      (visit requests signals m i).answer? (served (earlier.map (visit requests signals m))) = some a ∧
      ((fresh requests signals m).play before).state.KeptIn (served (earlier.map (visit requests signals m))) ∧
      ∀ user, (served (earlier.map (visit requests signals m))).HasRoom user [] := by
  have h := linearized_play hun hroom List.prefix_rfl
  have hbefore := linearized_play hun hroom ⟨later, hcut.symm⟩
  obtain ⟨earlier, rest, horder, hpart⟩ :=
    exists_cut_behind (order_grows (fresh requests signals m) hcut) (h.mem_order ha) hi
  have hsub : earlier.Sublist ((fresh requests signals m).order turns) := by
    rw [horder]
    exact List.sublist_append_left _ _
  have hunfired : (visit requests signals m i).IsUnfired := by
    obtain ⟨preferred, hmem⟩ := h.moved i (h.mem_order ha)
    obtain ⟨before, later, hstep⟩ := List.append_of_mem hmem
    exact check_of_play before (hun before i preferred later hstep)
  refine ⟨earlier, rest, horder, hunfired, h.answer?_eq horder ha, ?_, ?_⟩
  · rw [hbefore.state]
    exact keptIn_served hpart
  · intro user
    exact hasRoom_served (hroom user) (h.nodup.sublist hsub) fun j hj => mem_begun.mpr (h.moved j (hsub.subset hj))

end Orders

end Runs

end Traffic

open Traffic in
/-- Overlapping calls on one store, whose signals do not fire and whose amounts fit together for each user, come to what
they come to in the order of their effects. A history is never refused once its user has been found, and who has been
told of a duplicate finds the record in every history and balance of its owner from then on. -/
theorem calls_linearizable {ι : Type} [DecidableEq ι] (requests : ι → Request) (signals : ι → Signal) (m : Moment)
    (turns : List (Turn ι)) (hun : Undisturbed signals (fresh requests signals m) turns)
    (hfit : ∀ user, Amount.FitTogether (amountsFor user (submitted ((begun turns).map (visit requests signals m))))) :
    let visits := visit requests signals m
    let start := fresh requests signals m
    let order := start.order turns
    IsLinearization visits start turns order ∧
    (∀ before i preferred later user number size p guard u a, turns = before ++ .step i preferred :: later →
      requests i = .history user number size → Page.of? number size = some p →
      (start.play before).flights i = .active guard (visits i).work → (start.play before).state.find user = .ok u →
      (start.play turns).answer? i = some a → ∃ ts, a = .history (.ok ts)) ∧
    ∀ before later i t, turns = before ++ later → requests i = .addTransaction t →
      (start.play before).answer? i = some (.transaction (.error .transactionAlreadyExists)) →
      ∃ r, r.id = t.id ∧ (start.play before).state.recorded? t.id = some r ∧
        ∀ j a, ¬ Moved before j → (start.play turns).answer? j = some a →
          ∃ earlier rest, order = earlier ++ j :: rest ∧
            let s := served (earlier.map visits)
            r ∈ s.history r.userId ∧
            (∀ number size p, requests j = .history r.userId number size → Page.of? number size = some p →
              a = .history (.ok (p.select (s.history r.userId)))) ∧
            (requests j = .balance r.userId →
              ∃ b, a = .balance (.ok b) ∧ b.value = Amount.exactSum (s.amounts r.userId)) := by
  intro visits start order
  have hroom : ∀ user, Store.HasRoom {} user (submitted ((begun turns).map visits)) := by
    intro user
    exact .of_fitTogether (sound_served []) (fun _ => isValid_of_submitted) (hfit user)
  refine ⟨isLinearization hun hroom, ?_, ?_⟩
  · intro before i preferred later user number size p guard u a hcut hr hp hfl hu ha
    have hbefore := linearized_play hun hroom ⟨_, hcut.symm⟩
    -- the look-up is still to come, so the call has not had its effect
    have hi : i ∉ start.order before := by
      intro hi
      obtain ⟨good, hover⟩ := hbefore.exists_over hi
      obtain ⟨next, hnext, -⟩ := Visit.exists_historyWork user p
      rw [hfl, Visit.work_history hr hp, hnext] at hover
      exact hover
    obtain ⟨earlier, -, -, hunfired, hanswer, hkept, hroom⟩ := exists_later_cut hun hroom hcut hi ha
    have hreg := hkept.isRegistered user (find_eq_ok_iff.mp hu).1
    obtain ⟨b, hb, -⟩ := (hroom user).find_eq hreg
    rw [Visit.answer?_history hunfired hr hp hb] at hanswer
    exact ⟨_, (Option.some.inj hanswer).symm⟩
  · intro before later i t hcut hr ha
    have hbefore := linearized_play hun hroom ⟨_, hcut.symm⟩
    obtain ⟨r, hid, hthen⟩ := hbefore.exists_recorded hr ha
    refine ⟨r, hid, hthen, ?_⟩
    intro j a hj hanswer
    obtain ⟨earlier, rest, horder, hunfired, hanswer, hkept, hroom⟩ :=
      exists_later_cut hun hroom hcut (fun hmem => hj (hbefore.moved j hmem)) hanswer
    have hmem : r ∈ (served (earlier.map visits)).history r.userId :=
      (sound_served _).mem_history_of_recorded? (hkept.recorded? t.id r hthen)
    have hreg := isRegistered_of_mem_history hmem
    obtain ⟨b, hb, hvalue⟩ := (hroom r.userId).find_eq hreg
    refine ⟨earlier, rest, horder, hmem, ?_, ?_⟩
    · intro number size p hread hp
      rw [Visit.answer?_history hunfired hread hp hb] at hanswer
      exact (Option.some.inj hanswer).symm
    · intro hread
      rw [Visit.answer?_balance hunfired hread hb] at hanswer
      exact ⟨b, (Option.some.inj hanswer).symm, hvalue⟩

def overlapping : Nat → Request
  | 0 => .createUser default
  | 1 => .addTransaction (.ofNumbers 1 20 25 1)
  | 2 => .history default 1 10
  | 3 => .addTransaction (.ofNumbers 2 10 1 0)
  | 4 => .addTransaction (.ofNumbers 1 20 25 1)
  | _ => .balance default

/-- The second deposit is recorded when the history has found its user and has not read the page. -/
def betweenSteps : List (Turn Nat) :=
  [(0, 4), (1, 4), (2, 3), (3, 4), (2, 2), (4, 4), (5, 4)].flatMap fun (i, n) => List.replicate n (.step i .cancelled)

def untimed (i : Nat) : Signal := ⟨i, none⟩

open Traffic in
theorem overlapping_calls_linearizable :
    let start := fresh overlapping untimed {}
    let w := start.play betweenSteps
    IsLinearization (visit overlapping untimed {}) start betweenSteps [0, 1, 3, 2, 4, 5] ∧
    w.answer? 2 = some (.history (.ok [.ofNumbers 2 10 1 0, .ofNumbers 1 20 25 1])) ∧
    w.answer? 4 = some (.transaction (.error .transactionAlreadyExists)) ∧
    ∃ b, w.answer? 5 = some (.balance (.ok b)) ∧ b.value = 7 / 2 := by
  have hun : Undisturbed untimed (fresh overlapping untimed {}) betweenSteps :=
    .of_play fun i => rfl
  have hsubmitted : submitted ((begun betweenSteps).map (visit overlapping untimed {})) =
      [.ofNumbers 1 20 25 1, .ofNumbers 2 10 1 0, .ofNumbers 1 20 25 1] := by decide
  have hfit : ∀ user, Amount.FitTogether
      (amountsFor user (submitted ((begun betweenSteps).map (visit overlapping untimed {})))) := by
    rw [hsubmitted]
    refine fitTogether_of_one_user default (by decide) ?_
    unfold Amount.FitTogether
    decide +kernel
  obtain ⟨horder, -, -⟩ := calls_linearizable overlapping untimed {} betweenSteps hun hfit
  exact ⟨horder, rfl, rfl, (Amount.of? 35 1).getD default, rfl, by decide +kernel⟩

end Passbook
