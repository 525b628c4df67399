import Passbook.Proofs.Service.Responses

/-! The stores that requests lead to, one after the other or overlapping, and what all of them keep of the store that
they start from. -/

namespace Passbook

open Work

lemma Exchange.Effect.grows {x : Exchange} {s s' : Store} {r : Http.Response} (h : x.Effect s r s') : s.Grows s' := by
  cases h with
  | kept => exact .same
  | registered _ _ _ hnew => exact .register hnew
  | recorded _ _ _ _ href => exact .put href

namespace Store

inductive Reaches (timeout : Option Nat) (s : Store) : Store → Prop
  | refl : Reaches timeout s s
  | exchange {s' : Store} (x : Exchange) : Reaches timeout s s' → Reaches timeout s (x.after timeout s')
  | traffic {ι : Type} [DecidableEq ι] {s' : Store} (overlapping : ι → Exchange) (m : Moment) (turns : List (Turn ι)) :
    Reaches timeout s s' →
      Reaches timeout s ((Traffic.ofTasks (fun i => (overlapping i).task timeout) m s').play turns).state

namespace Reaches

variable {timeout : Option Nat} {s s' : Store}

lemma of_effects {R : Store → Store → Prop} (hrefl : ∀ s, R s s) (htrans : ∀ {s s' s''}, R s s' → R s' s'' → R s s'')
    (heffect : ∀ {x : Exchange} {s r s'}, x.Effect s r s' → R s s') (h : s.Reaches timeout s') : R s s' := by
  induction h with
  | refl => exact hrefl s
  | @exchange s' x _ ih =>
    obtain ⟨r, -, h⟩ := x.exists_effect timeout s'
    exact htrans ih (heffect h)
  | @traffic ι _ s' overlapping m turns _ ih =>
    have hflights : ∀ i, ((Traffic.ofTasks (fun i => (overlapping i).task timeout) m s').flights i).Meets
        (Respects id R) fun _ => True :=
      fun i => ⟨(overlapping i).respects_task timeout hrefl heffect, fun _ _ _ _ => trivial⟩
    exact htrans ih (Traffic.respects_play hrefl htrans hflights turns).1

lemma keptIn (h : s.Reaches timeout s') : s.KeptIn s' :=
  h.of_effects KeptIn.refl KeptIn.trans fun heffect => .of_grows heffect.grows

lemma genuine (h : s.Reaches timeout s') (hs : s.Genuine) : s'.Genuine :=
  h.of_effects (R := fun s s' => s.Genuine → s'.Genuine) (fun _ hs => hs) (fun h h' hs => h' (h hs))
    (fun heffect hs => hs.effect heffect) hs

end Reaches

end Store

end Passbook
