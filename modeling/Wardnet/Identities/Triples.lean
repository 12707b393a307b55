/-
# Triples for the identity service

How the rules of `Learning` apply to the operations of the identity service: to a call that may
fail, and to a procedure of the tenant service that it runs.
-/

import Wardnet.Base.Learn
import Wardnet.Identities.World

namespace Wardnet.Identities

open Base
open Base.Learning (ifOk)
open Authority (Failure TenantsError)

variable {setup : Setup} {L : Learning (plane setup)} {task : Task} {own : Option ℕ}
  {α β ε : Type} {P : Db → Prop}

variable {Q : α → Db → Prop} {Q' : β → Db → Prop}

theorem learns_delegate_bind {p : Authority.Proc α} {f : α → Authority.Proc β}
    (hp : L.Learns task own Q P (delegate p))
    (hf : ∀ value, L.Learns task own Q' (Q value) (delegate (f value))) :
    L.Learns task own Q' P (delegate (p.bind f)) := by
  unfold delegate
  rw [Prog.translate_bind]
  exact hp.bind hf

theorem learns_delegate_mapError {ε' : Type} {p : Authority.Proc (Except ε α)}
    (h : L.Learns task own (ifOk Q) P (delegate p)) (f : ε → ε') :
    L.Learns task own (ifOk Q) P (delegate (p.bind fun r => .ret (r.mapError f))) := by
  refine learns_delegate_bind h fun r => ?_
  cases r with
  | ok value => exact fun _ h => h
  | error e => exact fun _ _ => trivial

theorem learns_delegate_exceptBind {p : ExceptT ε Authority.Proc α}
    {f : α → ExceptT ε Authority.Proc β} (hp : L.Learns task own (ifOk Q) P (delegate p.run))
    (hf : ∀ value, L.Learns task own (ifOk Q') (Q value) (delegate (f value).run)) :
    L.Learns task own (ifOk Q') P (delegate (p >>= f).run) := by
  refine learns_delegate_bind hp fun r => ?_
  cases r with
  | ok value => exact hf value
  | error e => exact fun _ _ => trivial

end Wardnet.Identities
