import Passbook.Proofs.History.Pages
import Passbook.Proofs.Traffic.AppendOnly

/-! A history that one client reads page by page, while others go on with anything else. A page is what the store shows
at one step of its call. Pages that are full stay the first records of the history as long as what is recorded after
each of them comes behind all that was read. -/

namespace Passbook

open Work Store

namespace Store

structure Extends (s s' : Store) : Prop where
  keptIn : s.KeptIn s'
  consistent : s.Consistent → s'.Consistent

namespace Extends

variable {s s' s'' : Store}

lemma refl (s : Store) : s.Extends s := ⟨.refl s, fun hs => hs⟩

lemma trans (h : s.Extends s') (h' : s'.Extends s'') : s.Extends s'' :=
  ⟨h.keptIn.trans h'.keptIn, fun hs => h'.consistent (h.consistent hs)⟩

lemma of_grows (h : s.Grows s') : s.Extends s' := ⟨.of_grows h, h.consistent⟩

end Extends

end Store

lemma Store.page_eq_ok {s : Store} {user : UserId} {p : Page} {records : List Transaction}
    (h : s.page user p = .ok records) : ∃ a, s.account? user = some a ∧ records = p.select a.history := by
  cases ha : s.account? user with
  | none => simp [page, ha] at h
  | some a =>
    simp only [page, ha, Except.ok.injEq] at h
    exact ⟨a, rfl, h.symm⟩

section Calls

variable {σ : Type} {view : σ → Store} {faults : StoreError → Prop} {r : Repository σ} {user : UserId}
  {number size : Nat} {p : Page}

def Reply.IsPageError (a : Reply) : Prop := ∃ e, a = .answer (.history (.error e))

def Reply.ShowsPage (x : Except StoreError (List Transaction)) (a : Reply) : Prop :=
  a = .answer (.history (x.mapError LedgerError.ofStore)) ∨ a.IsPageError

lemma once_historyWork (h : r.Wraps view faults) (user : UserId) (p : Page) :
    Once view (fun s => (s.page user p, s)) (fun x => ∃ e, x = .error e)
      (fun page x => x = page.mapError LedgerError.ofStore ∨ ∃ e, x = .error e) (Manager.historyWork r user p) := by
  have hfind : Quiet view (fun _ => True) (Manager.relay (r.findUser user)) :=
    ((h.findUser user).quiet fun _ => rfl).map fun _ _ => trivial
  refine .of_bind hfind fun x _ => ?_
  cases x with
  | error e => exact .quit (.done ⟨e, rfl⟩)
  | ok u =>
    refine (h.history user p).map ?_ ?_
    · rintro _ ⟨e, -, rfl⟩
      exact ⟨_, rfl⟩
    · rintro page x (rfl | ⟨e, -, rfl⟩)
      · exact .inl rfl
      · exact .inr ⟨_, rfl⟩

lemma Use.meets_history (h : r.Wraps view faults) (user : UserId) (signal : Signal)
    (hp : Page.of? number size = some p) :
    (Flight.ready ((Use.ledger (.history user number size) signal).task r)).Meets
      (Once view (fun s => (s.page user p, s)) (fun o => o.answer.IsPageError) fun x o => o.answer.ShowsPage x)
      fun o => o.answer.IsPageError := by
  simp only [Use.task, Request.task, Manager.history, hp, Call.task, Task.under, Task.map, map_map]
  refine ⟨(once_historyWork h user p).map ?_ ?_, ?_⟩
  · rintro _ ⟨e, rfl⟩
    exact ⟨e, rfl⟩
  · rintro page _ (rfl | ⟨e, rfl⟩)
    · exact .inl rfl
    · exact .inr ⟨e, rfl⟩
  · intro g hg started i
    obtain rfl := Option.mem_some_iff.mp hg
    exact ⟨i.error, rfl⟩

end Calls

namespace Traffic

variable {ι σ : Type} [DecidableEq ι] {view : σ → Store} {faults : StoreError → Prop}

def ofUses (repositories : ι → Repository σ) (uses : ι → Use) (m : Moment) (s : σ) : Traffic ι σ Reply :=
  ofTasks (fun i => (uses i).task (repositories i)) m s

structure ReadsAt (view : σ → Store) (w : Traffic ι σ Reply) (turns : List (Turn ι)) (i : ι) (user : UserId)
    (number size : Nat) (records : List Transaction) (before : List (Turn ι)) : Prop where
  step : ∃ preferred later, turns = before ++ .step i preferred :: later
  unanswered : (w.play before).answer? i = none
  page : ∃ p, Page.of? number size = some p ∧ (view (w.play before).state).page user p = .ok records

lemma ReadsAt.isPrefix {w : Traffic ι σ Reply} {turns before : List (Turn ι)} {i : ι} {user : UserId}
    {number size : Nat} {records : List Transaction} (h : ReadsAt view w turns i user number size records before) :
    before <+: turns := by
  obtain ⟨preferred, later, rfl⟩ := h.step
  exact List.prefix_append _ _

section Runs

variable {repositories : ι → Repository σ} (hr : ∀ i, (repositories i).Wraps view faults) {uses : ι → Use} {m : Moment}
  {s : σ} {turns : List (Turn ι)}

include hr

lemma extends_play {before after : List (Turn ι)} (h : before <+: after) :
    Extends (view ((ofUses repositories uses m s).play before).state)
      (view ((ofUses repositories uses m s).play after).state) := by
  have hstart : ∀ i, ((ofUses repositories uses m s).flights i).Meets (Respects view Extends) fun _ => True := by
    intro i
    exact ⟨((uses i).respects_task (hr i)).mono fun _ _ => .of_grows, fun _ _ _ _ => trivial⟩
  obtain ⟨later, rfl⟩ := h
  have hflights := (respects_play Extends.refl Extends.trans hstart before).2
  simpa only [play, List.foldl_append] using (respects_play Extends.refl Extends.trans hflights later).1

lemma exists_readsAt {i : ι} {user : UserId} {number size : Nat} {signal : Signal} {records : List Transaction}
    (huse : uses i = .ledger (.history user number size) signal)
    (ha : ((ofUses repositories uses m s).play turns).answer? i = some (.answer (.history (.ok records)))) :
    ∃ before, ReadsAt view (ofUses repositories uses m s) turns i user number size records before := by
  obtain ⟨o, hfl, ho⟩ := exists_answered ha
  cases hp : Page.of? number size with
  | none =>
    have hstart : ((ofUses repositories uses m s).flights i).Meets (Quiet view fun o => o.answer.IsPageError)
        fun o => o.answer.IsPageError := by
      simp only [ofUses, ofTasks, huse, Use.task, Request.task, Manager.history, hp, Call.task, Task.settled, Task.map]
      exact ⟨.done ⟨_, rfl⟩, by simp⟩
    have hplay := quiet_play hstart turns
    rw [hfl] at hplay
    obtain ⟨e, he⟩ := hplay
    rw [ho] at he
    cases he
  | some p =>
    have hstart := Use.meets_history (hr i) user signal hp
    rw [← huse] at hstart
    rcases once_play (w := ofUses repositories uses m s) (fun _ _ ho => .inr ho) hstart turns with
      hplay | ⟨before, preferred, later, hcut, hopen, hplay⟩
    · rw [hfl] at hplay
      obtain ⟨e, he⟩ := hplay
      rw [ho] at he
      cases he
    · rw [hfl] at hplay
      refine ⟨before, ⟨preferred, later, hcut⟩, hopen, p, hp, ?_⟩
      rcases hplay with he | ⟨e, he⟩
      · rw [ho] at he
        generalize (view ((ofUses repositories uses m s).play before).state).page user p = x at he
        cases x with
        | ok ts => cases he; rfl
        | error e => cases he
      · rw [ho] at he
        cases he

/-- What a client has that reads pages of one history in turn, all of them full. -/
structure Walk (view : σ → Store) (w : Traffic ι σ Reply) (turns : List (Turn ι)) (calls : Nat → ι) (user : UserId)
    (size k : Nat) (records : Nat → List Transaction) (reads : Nat → List (Turn ι)) : Prop where
  readsAt i : i < k → ReadsAt view w turns (calls i) user (i + 1) size (records i) (reads i)
  inTurn i before preferred later : i + 1 < k → turns = before ++ .step (calls (i + 1)) preferred :: later →
    ((w.play before).answer? (calls i)).isSome
  full i : i < k → (records i).length = size

variable {calls : Nat → ι} {user : UserId} {size k : Nat} {records : Nat → List Transaction}
  {reads : Nat → List (Turn ι)}

omit hr in
lemma Walk.reads_isPrefix {w : Traffic ι σ Reply} (h : Walk view w turns calls user size k records reads) {i j : Nat}
    (hij : i ≤ j) (hj : j < k) : reads i <+: reads j := by
  induction j with
  | zero =>
    obtain rfl := Nat.le_zero.mp hij
    exact List.prefix_rfl
  | succ j ih =>
    rcases Nat.lt_or_eq_of_le hij with hij | rfl
    · have hjk : j < k := Nat.lt_of_succ_lt hj
      refine (ih (Nat.le_of_lt_succ hij) hjk).trans ?_
      obtain ⟨preferred, later, hcut⟩ := (h.readsAt (j + 1) hj).step
      have hanswered := h.inTurn j _ preferred later hj hcut
      rcases List.prefix_or_prefix_of_prefix (h.readsAt j hjk).isPrefix (h.readsAt (j + 1) hj).isPrefix with hp | hp
      · exact hp
      · obtain ⟨a, ha⟩ := Option.isSome_iff_exists.mp hanswered
        obtain ⟨more, hmore⟩ := hp
        have hstays := answer?_play ha more
        have hopen := (h.readsAt j hjk).unanswered
        rw [← hmore, play, List.foldl_append] at hopen
        rw [play, play, hopen] at hstays
        cases hstays
    · exact List.prefix_rfl

def historyAfter (view : σ → Store) (w : Traffic ι σ Reply) (user : UserId) (turns : List (Turn ι)) : List Transaction :=
  (view (w.play turns).state).history user

lemma Walk.pages_eq_take {w : Traffic ι σ Reply} (hw : w = ofUses repositories uses m s)
    (h : Walk view w turns calls user size k records reads) (hs : (view s).Consistent)
    (hword : (historyAfter view w user turns).length < wordLimit)
    (hbehind : ∀ i < k, ∀ t ∈ historyAfter view w user turns, t ∉ historyAfter view w user (reads i) →
      ∀ j ≤ i, ∀ r ∈ records j, r.isBefore t) {n : Nat} (hn : n ≤ k) {cut : List (Turn ι)} (hcut : cut <+: turns)
    (hreads : ∀ i < n, reads i <+: cut) :
    (List.range n).flatMap records = (historyAfter view w user cut).take (n * size) ∧
      n * size ≤ (historyAfter view w user cut).length := by
  have hkept : ∀ {before after}, before <+: after →
      (historyAfter view w user before).Sublist (historyAfter view w user after) := by
    intro before after hpart
    subst hw
    exact (extends_play hr hpart).keptIn.history user
  have hsorted : ∀ now, Transaction.Sorted (historyAfter view w user now) := by
    intro now
    subst hw
    exact ((extends_play hr (List.nil_prefix (l := now))).consistent hs).sorted_history user
  induction n generalizing cut with
  | zero => simp
  | succ n ih =>
    have hnk : n < k := hn
    have hread := h.readsAt n hnk
    have hthen : reads n <+: cut := hreads n (Nat.lt_succ_self n)
    obtain ⟨p, hp, hpage⟩ := hread.page
    have hselect : records n = p.select (historyAfter view w user (reads n)) := by
      obtain ⟨a, ha, hrecords⟩ := page_eq_ok hpage
      rw [historyAfter, history_of_account? ha, hrecords]
    -- the pages before are the first records when this one is read
    obtain ⟨hbefore, -⟩ := ih (Nat.le_of_lt hnk) hread.isPrefix fun i hi => h.reads_isPrefix (Nat.le_of_lt hi) hnk
    have hfull : (p.select (historyAfter view w user (reads n))).length = size := hselect ▸ h.full n hnk
    obtain ⟨htake, hle⟩ := Page.take_append_select hp hfull
      (Nat.lt_of_le_of_lt (hkept hread.isPrefix).length_le hword)
    have hpages : (List.range (n + 1)).flatMap records =
        (historyAfter view w user (reads n)).take ((n + 1) * size) := by
      rw [List.range_succ, List.flatMap_append, List.flatMap_singleton, hbefore, hselect, htake]
    refine ⟨?_, Nat.le_trans hle (hkept hthen).length_le⟩
    rw [hpages]
    symm
    apply Transaction.take_eq_of_sublist (hkept hthen) (hsorted cut) hle
    intro t ht hnew r hr
    rw [← hpages, List.mem_flatMap] at hr
    obtain ⟨j, hj, hr⟩ := hr
    exact hbehind n hnk t ((hkept hcut).subset ht) hnew j (Nat.le_of_lt_succ (List.mem_range.mp hj)) r hr

end Runs

end Traffic

open Traffic in
/-- A client reads full pages of one history in turn, whatever stands between it and the store, and whatever others do
in the meantime. Each page is what the store shows at one step of its call. If all that is recorded for the user after
such a step comes behind every record read so far, then the pages together are the first records of the history at the
end, in their strict order. A history has fewer records than a word can count. -/
theorem page_walk_stable {ι σ : Type} [DecidableEq ι] {view : σ → Store} {faults : StoreError → Prop}
    {repositories : ι → Repository σ} (hr : ∀ i, (repositories i).Wraps view faults) (uses : ι → Use) (m : Moment)
    {commands : List Command} {s : σ} (hs : view s = after commands) (turns : List (Turn ι)) {user : UserId}
    {size k : Nat} {calls : Nat → ι} {signals : Nat → Signal} {records : Nat → List Transaction}
    (huse : ∀ i < k, uses (calls i) = .ledger (.history user (i + 1) size) (signals i))
    (hturn : ∀ i before preferred later, i + 1 < k → turns = before ++ .step (calls (i + 1)) preferred :: later →
      (((ofUses repositories uses m s).play before).answer? (calls i)).isSome)
    (hfull : ∀ i < k, ((ofUses repositories uses m s).play turns).answer? (calls i) =
      some (.answer (.history (.ok (records i)))) ∧ (records i).length = size)
    (hword : (historyAfter view (ofUses repositories uses m s) user turns).length < wordLimit) :
    let w := ofUses repositories uses m s
    let history := historyAfter view w user
    (∃ reads : Nat → List (Turn ι), ∀ i < k, ReadsAt view w turns (calls i) user (i + 1) size (records i) (reads i)) ∧
    ∀ reads : Nat → List (Turn ι), (∀ i < k, ReadsAt view w turns (calls i) user (i + 1) size (records i) (reads i)) →
      (∀ i < k, ∀ t ∈ history turns, t ∉ history (reads i) → ∀ j ≤ i, ∀ r ∈ records j, r.historyOrder t = .lt) →
      (List.range k).flatMap records = (history turns).take (k * size) ∧ k * size ≤ (history turns).length ∧
        ((List.range k).flatMap records).Pairwise fun r t => r.historyOrder t = .lt := by
  intro w history
  refine ⟨?_, ?_⟩
  · have hexists : ∀ i, ∃ before, i < k → ReadsAt view w turns (calls i) user (i + 1) size (records i) before := by
      intro i
      by_cases hi : i < k
      · obtain ⟨before, hread⟩ := exists_readsAt hr (huse i hi) (hfull i hi).1
        exact ⟨before, fun _ => hread⟩
      · exact ⟨[], fun h => absurd h hi⟩
    choose reads hreads using hexists
    exact ⟨reads, hreads⟩
  · intro reads hreads hbehind
    have hwalk : Walk view w turns calls user size k records reads := ⟨hreads, hturn, fun i hi => (hfull i hi).2⟩
    have hconsistent : (view s).Consistent := hs ▸ consistent_after commands
    obtain ⟨htake, hle⟩ := hwalk.pages_eq_take hr rfl hconsistent hword
      (fun i hi t ht hnew j hj r hr' => Transaction.isBefore_iff.mpr (hbehind i hi t ht hnew j hj r hr'))
      (Nat.le_refl k) List.prefix_rfl fun i hi => (hreads i hi).isPrefix
    refine ⟨htake, hle, ?_⟩
    have hsorted : Transaction.Sorted (history turns) :=
      ((extends_play hr (List.nil_prefix (l := turns))).consistent hconsistent).sorted_history user
    rw [htake]
    exact (hsorted.sublist (List.take_sublist _ _)).imp Transaction.isBefore_iff.mp

def deposited (n : Nat) : Transaction := .ofNumbers (.ofNat n) (10 * n) 25 1

def walking : Nat → Use
  | 0 => .store (.addUser default)
  | 4 => .ledger (.history default 1 2) ⟨4, none⟩
  | 5 => .ledger (.history default 2 2) ⟨5, none⟩
  | n => .ledger (.addTransaction (deposited n)) ⟨n, none⟩

/-- A deposit comes in when the first page has been read and is not answered, one between the two steps of the second
call, and one at the end. -/
def walkTurns : List (Turn Nat) :=
  [(0, 4), (1, 4), (2, 4), (3, 4), (4, 4), (6, 4), (4, 1), (5, 3), (7, 4), (5, 2), (8, 4)].flatMap fun (n, times) =>
    List.replicate times (.step n .cancelled)

def walkPages : Nat → List Transaction
  | 0 => [deposited 1, deposited 2]
  | _ => [deposited 3, deposited 6]

def walkReads : Nat → List (Turn Nat)
  | 0 => walkTurns.take 19
  | _ => walkTurns.take 32

open Traffic in
theorem page_walk_during_deposits :
    let history := historyAfter id (ofUses (fun _ => Store.repository) walking {} {}) default
    history (walkReads 0) = [1, 2, 3].map deposited ∧ history (walkReads 1) = [1, 2, 3, 6, 7].map deposited ∧
      (List.range 2).flatMap walkPages = (history walkTurns).take (2 * 2) := by
  intro history
  have hr : ∀ _ : Nat, Store.repository.Wraps id fun _ => True := fun _ => Repository.wraps_store _
  have hturn : ∀ i before preferred later, i + 1 < 2 → walkTurns = before ++ .step (i + 1 + 4) preferred :: later →
      (((ofUses (fun _ => Store.repository) walking {} {}).play before).answer? (i + 4)).isSome := by
    intro i before preferred later hi hcut
    obtain rfl : i = 0 := by omega
    -- the second call takes no step before the first one is answered
    have hfirst : walkTurns.take 25 <+: before := by
      have hlong : 25 ≤ before.length := by
        by_contra hshort
        have hmem : .step 5 preferred ∈ walkTurns.take 25 := by
          rw [hcut, List.take_append, List.take_of_length_le (by omega)]
          simp [show 25 - before.length = 24 - before.length + 1 by omega]
        cases preferred <;> exact absurd hmem (by decide)
      rw [hcut, List.take_append_of_le_length hlong]
      exact List.take_prefix _ _
    obtain ⟨more, rfl⟩ := hfirst
    have hanswer : ((ofUses (fun _ => Store.repository) walking {} {}).play (walkTurns.take 25)).answer? 4 =
        some (.answer (.history (.ok (walkPages 0)))) := rfl
    have hstays := answer?_play hanswer more
    rw [play, List.foldl_append]
    exact Option.isSome_of_eq_some hstays
  have hfull : ∀ i < 2, ((ofUses (fun _ => Store.repository) walking {} {}).play walkTurns).answer? (i + 4) =
      some (.answer (.history (.ok (walkPages i)))) ∧ (walkPages i).length = 2 := by
    intro i hi
    rcases (by omega : i = 0 ∨ i = 1) with rfl | rfl <;> exact ⟨rfl, rfl⟩
  have hs : id ({} : Store) = after [] := rfl
  have huse : ∀ i < 2, walking (i + 4) = .ledger (.history default (i + 1) 2) ⟨i + 4, none⟩ := by
    intro i hi
    rcases (by omega : i = 0 ∨ i = 1) with rfl | rfl <;> rfl
  obtain ⟨-, hwalk⟩ := page_walk_stable hr walking {} hs walkTurns huse hturn hfull (by decide)
  have hreads : ∀ i < 2, ReadsAt id (ofUses (fun _ => Store.repository) walking {} {}) walkTurns (i + 4) default (i + 1)
      2 (walkPages i) (walkReads i) := by
    intro i hi
    rcases (by omega : i = 0 ∨ i = 1) with rfl | rfl
    · exact ⟨⟨.cancelled, walkTurns.drop 20, rfl⟩, rfl, _, rfl, rfl⟩
    · exact ⟨⟨.cancelled, walkTurns.drop 33, rfl⟩, rfl, _, rfl, rfl⟩
  have hfinal : history walkTurns = [1, 2, 3, 6, 7, 8].map deposited := rfl
  have hreads₀ : history (walkReads 0) = [1, 2, 3].map deposited := rfl
  have hreads₁ : history (walkReads 1) = [1, 2, 3, 6, 7].map deposited := rfl
  have hbehind : ∀ i < 2, ∀ t ∈ history walkTurns, t ∉ history (walkReads i) → ∀ j ≤ i, ∀ r ∈ walkPages j,
      r.historyOrder t = .lt := by
    intro i hi
    rw [hfinal]
    rcases (by omega : i = 0 ∨ i = 1) with rfl | rfl
    · rw [hreads₀]
      decide +kernel
    · rw [hreads₁]
      decide +kernel
  exact ⟨hreads₀, hreads₁, (hwalk walkReads hreads hbehind).1⟩

end Passbook
