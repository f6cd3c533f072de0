/-
**What a posted body comes to.**

* `readBody_eq_ok_iff`: a body is taken if it is one object of texts, numbers and booleans;
* `applyBody_read`, `applyBody_refused`: then it is an update, and else nothing happens;
* `respond_failed`: what an HTTP request comes to whose change fails.
-/

import TouchDispatch.Api
import TouchDispatch.Proofs.Json.Legible

namespace TouchDispatch.Api

open TouchDispatch.Json TouchDispatch.Settings

variable {body : List UInt8} {values : Table} {refusal : Refusal}

/-- **A body is taken if it is one object, and all its values are texts, numbers or booleans.** -/
theorem readBody_eq_ok_iff : readBody body = .ok values ↔
    object body = .ok values ∧ ∀ member ∈ values, member.2.isScalar = true := by
  unfold readBody
  cases object body with
  | error fault => exact iff_of_false nofun fun both => nomatch both.1
  | ok read =>
    dsimp only
    cases found : read.find? fun member => !member.2.isScalar with
    | some member =>
      refine iff_of_false nofun ?_
      rintro ⟨same, scalar⟩
      obtain rfl := Except.ok.inj same
      have odd := List.find?_some found
      rw [scalar member (List.mem_of_find?_eq_some found)] at odd
      cases odd
    | none =>
      have scalar : ∀ member ∈ read, member.2.isScalar = true := fun member given => by
        simpa using List.find?_eq_none.mp found member given
      dsimp only
      constructor
      · intro same
        obtain rfl := Except.ok.inj same
        exact ⟨rfl, scalar⟩
      · rintro ⟨same, _⟩
        obtain rfl := Except.ok.inj same
        rfl

/-- The values of a body are in order, so each name occurs once. -/
theorem ordered_of_readBody (read : readBody body = .ok values) : values.Ordered :=
  (legible_object (readBody_eq_ok_iff.mp read).1).1

variable (store : Store) (disk : Disk)

/-- What is refused is not done in part. -/
theorem applyBody_refused (refused : readBody body = .error refusal) :
    applyBody store disk body = ⟨.error refusal, store, disk⟩ := by
  unfold applyBody
  rw [refused]

/-- What is taken is an update. -/
theorem applyBody_read (read : readBody body = .ok values) :
    applyBody store disk body =
      ⟨(store.update disk values).result.mapError .unwritable, (store.update disk values).store,
        (store.update disk values).disk⟩ := by
  unfold applyBody
  rw [read]

/-- A posted change that fails is shown as the last error of the settings. -/
theorem respond_failed (status : Status) (failed : (applyBody store disk body).result =
    .error refusal) : respond status store disk "POST" "/api/settings" body =
      ⟨textResponse 400 refusal.message, status.complain (some refusal.message),
        (applyBody store disk body).store, (applyBody store disk body).disk⟩ := by
  unfold respond
  rw [if_neg (by decide), if_neg (by decide), if_pos ⟨rfl, rfl⟩]
  dsimp only
  rw [failed]

end TouchDispatch.Api
