import Passbook.Proofs.History.Pages
import Passbook.Proofs.Manager.Request
import Passbook.Proofs.Store.Commands
import Passbook.Proofs.Store.Writes

/-! The pages of a user's history. What the store holds for a user is what it has accepted for the user, in order, and
the pages of one size cut it into parts, from the first page to the last one that is not empty. -/

namespace Passbook

namespace Store

namespace Command

def accepted? (s : Store) : Command → Option Transaction
  | addTransaction t =>
    match (s.record t).1 with
    | .ok _ => some t
    | .error _ => none
  | _ => none

lemma accepted?_of_refused {s : Store} {t : Transaction} {e : StoreError} (h : s.refusal? t = some e) :
    (addTransaction t).accepted? s = none ∧ (addTransaction t).after s = s := by
  rw [after_addTransaction, accepted?, record_of_refused h]
  exact ⟨rfl, rfl⟩

lemma accepted?_of_accepted {s : Store} {t : Transaction} (h : s.refusal? t = none) :
    (addTransaction t).accepted? s = some t ∧ (addTransaction t).after s = s.put t := by
  rw [after_addTransaction, accepted?, record_of_accepted h]
  exact ⟨rfl, rfl⟩

end Command

def accepted (user : UserId) (s : Store) : List Command → List Transaction
  | [] => []
  | c :: commands => (c.accepted? s).toList.filter (·.userId == user) ++ accepted user (c.after s) commands

variable {s : Store} {user : UserId}

lemma history_after_command (c : Command) :
    ((c.after s).history user).Perm (s.history user ++ (c.accepted? s).toList.filter (·.userId == user)) := by
  cases c with
  | addUser other =>
    rw [Command.after_addUser]
    by_cases hreg : s.isRegistered other
    · rw [addUser_of_registered hreg]
      exact .of_eq (List.append_nil _).symm
    · rw [addUser_of_new hreg, history_register]
      exact .of_eq (List.append_nil _).symm
  | findUser other => exact .of_eq (List.append_nil _).symm
  | history other page => exact .of_eq (List.append_nil _).symm
  | addTransaction t =>
    cases href : s.refusal? t with
    | some e =>
      obtain ⟨hnone, hafter⟩ := Command.accepted?_of_refused href
      rw [hnone, hafter]
      exact .of_eq (List.append_nil _).symm
    | none =>
      obtain ⟨hsome, hafter⟩ := Command.accepted?_of_accepted href
      rw [hsome, hafter]
      by_cases hu : t.userId = user
      · subst hu
        simpa using (history_put_self (isRegistered_of_refusal? href)).trans (List.perm_append_singleton _ _).symm
      · simp [history_put_of_ne hu, hu]

lemma history_after_commands (commands : List Command) :
    ((commands.foldl Command.after s).history user).Perm (s.history user ++ accepted user s commands) := by
  induction commands generalizing s with
  | nil => simp [accepted]
  | cons c commands ih =>
    refine ih.trans ?_
    rw [accepted, ← List.append_assoc]
    exact (history_after_command c).append_right _

def sortedAccepted (user : UserId) (commands : List Command) : List Transaction :=
  (accepted user {} commands).mergeSort fun s t => (s.historyOrder t).isLE

lemma sortedAccepted_eq (user : UserId) (commands : List Command) :
    sortedAccepted user commands = (after commands).history user := by
  have hperm : ((after commands).history user).Perm (({} : Store).history user ++ accepted user {} commands) :=
    history_after_commands commands
  exact Transaction.Sorted.mergeSort_eq ((consistent_after commands).sorted_history user) hperm.symm

section Pages

variable {size : Nat} {n : Nat}

def pageCount (size n : Nat) : Nat := (n + size - 1) / size

lemma le_pageCount_mul (hsize : 0 < size) (n : Nat) : n ≤ pageCount size n * size := by
  have hdiv := Nat.div_add_mod (n + size - 1) size
  have hmod := Nat.mod_lt (n + size - 1) hsize
  rw [pageCount, Nat.mul_comm]
  omega

lemma mul_le_of_lt_pageCount (hsize : 0 < size) {i : Nat} (h : i + 1 < pageCount size n) : (i + 1) * size ≤ n := by
  have hdiv := Nat.div_add_mod (n + size - 1) size
  have hmul : (i + 1 + 1) * size ≤ pageCount size n * size := Nat.mul_le_mul_right size h
  rw [pageCount, Nat.mul_comm (_ / _), Nat.succ_mul] at hmul
  omega

end Pages

end Store

open Store in
/-- The pages of one size, up to the last one that is not empty, are what the store has accepted for the user, sorted by
time and identity and cut into parts, of which all but the last are full. Any page is a slice of it, from a place that
is counted without a limit. -/
theorem pages_partition_history (commands : List Command) {user : UserId} (hreg : (after commands).isRegistered user)
    (hword : (accepted user {} commands).length < wordLimit) {size : Nat} (hsize : 0 < size) :
    let sorted := sortedAccepted user commands
    let count := pageCount size sorted.length
    let page (p : Page) := ((Store.repository.history user p).run 0 (after commands)).1
    sorted.Perm (accepted user {} commands) ∧ sorted.Pairwise (fun s t => s.historyOrder t = .lt) ∧
    (∀ p : Page, page p = .finished (.ok ((sorted.drop ((p.number - 1) * p.size)).take p.size))) ∧
    (∀ p : Page, p.size = size → count < p.number → page p = .finished (.ok [])) ∧
    ∃ pages : List (List Transaction), pages.length = count ∧ pages.flatten = sorted ∧
      (∀ i, ∀ h : i < pages.length, page ⟨i + 1, size, Nat.succ_pos i, hsize⟩ = .finished (.ok pages[i])) ∧
      ∀ i, ∀ h : i + 1 < pages.length, pages[i].length = size := by
  intro sorted count page
  have hsorted : sorted = (after commands).history user := sortedAccepted_eq user commands
  have hperm : sorted.Perm (accepted user {} commands) := List.mergeSort_perm _ _
  have hpage : ∀ p : Page, page p = .finished (.ok ((sorted.drop ((p.number - 1) * p.size)).take p.size)) := by
    intro p
    have hlength : ((after commands).history user).length < wordLimit := by
      rw [← hsorted, hperm.length_eq]
      exact hword
    have hrun : page p = .finished ((after commands).page user p) := rfl
    rw [hrun, page_of_registered hreg, Page.select_eq_slice hlength, hsorted]
  have hall : sorted.length ≤ count * size := le_pageCount_mul hsize _
  refine ⟨hperm, ?_, hpage, ?_, ?_⟩
  · rw [hsorted]
    exact ((consistent_after commands).sorted_history user).imp Transaction.isBefore_iff.mp
  · rintro p rfl hlater
    have hbehind : count * p.size ≤ (p.number - 1) * p.size := Nat.mul_le_mul_right _ (by omega)
    rw [hpage, List.drop_eq_nil_of_le (Nat.le_trans hall hbehind), List.take_nil]
  · refine ⟨(List.range count).map fun i => (sorted.drop (i * size)).take size, by simp, ?_, ?_, ?_⟩
    · rw [← List.flatMap_def, Page.flatMap_slices]
      exact List.take_of_length_le hall
    · intro i h
      rw [hpage]
      simp
    · intro i h
      have hle : (i + 1) * size ≤ sorted.length := mul_le_of_lt_pageCount hsize (by simpa using h)
      rw [Nat.succ_mul] at hle
      simp only [List.getElem_map, List.getElem_range, List.length_take, List.length_drop]
      omega

namespace Store

def shuffled : List Command :=
  .addUser default :: [.ofNumbers 3 10 1 0, .ofNumbers 1 20 1 0, .ofNumbers 5 5 1 0, .ofNumbers 3 30 7 0,
    { Transaction.ofNumbers 6 1 1 0 with userId := ⟨.ofRandom default⟩ }, .ofNumbers 2 10 1 0,
    .ofNumbers 4 15 1 0].map Command.addTransaction

theorem shuffled_on_three_pages :
    let page (number : Nat) (h : 0 < number) :=
      ((Store.repository.history default ⟨number, 2, h, by decide⟩).run 0 (after shuffled)).1
    sortedAccepted default shuffled = [.ofNumbers 5 5 1 0, .ofNumbers 2 10 1 0, .ofNumbers 3 10 1 0,
      .ofNumbers 4 15 1 0, .ofNumbers 1 20 1 0] ∧
    page 2 (by decide) = .finished (.ok [.ofNumbers 3 10 1 0, .ofNumbers 4 15 1 0]) ∧
    page 3 (by decide) = .finished (.ok [.ofNumbers 1 20 1 0]) ∧ page 4 (by decide) = .finished (.ok []) := by
  intro page
  have hsorted : sortedAccepted default shuffled = [.ofNumbers 5 5 1 0, .ofNumbers 2 10 1 0, .ofNumbers 3 10 1 0,
      .ofNumbers 4 15 1 0, .ofNumbers 1 20 1 0] := sortedAccepted_eq default shuffled
  have hreg : (after shuffled).isRegistered default := by decide
  have hword : (accepted default {} shuffled).length < wordLimit := by decide
  obtain ⟨-, -, hslice, hlater, -⟩ := pages_partition_history shuffled hreg hword (by decide : 0 < 2)
  rw [hsorted] at hslice hlater
  exact ⟨hsorted, hslice _, hslice _, hlater _ rfl (by decide)⟩

end Store

end Passbook
