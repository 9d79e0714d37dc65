import Tether.Net.Host
import Tether.Proofs.Text.Numeral

/-!
Dialing this host by its name. A port that was written is read again, and so `localhost` with a port
behind a colon is resolved to the loopback address with that port (`resolve_localhost`).
-/

namespace Tether.Net

open Tether.Text

/-- Behind the last colon stands what holds no colon. -/
theorem splitLastColon_append {front back : List Char} (h : ':' ∉ back) :
    splitLastColon (front ++ ':' :: back) = some (front, back) := by
  have htake : (front ++ ':' :: back).reverse.takeWhile (· ≠ ':') = back.reverse := by
    rw [List.reverse_append, List.reverse_cons, List.append_assoc,
      List.takeWhile_append_of_pos]
    · simp
    · intro c hc
      rw [List.mem_reverse] at hc
      rw [decide_eq_true_eq]
      rintro rfl
      exact h hc
  unfold splitLastColon
  rw [htake, List.reverse_reverse, if_neg]
  · have hlen : (front ++ ':' :: back).length - back.length - 1 = front.length := by
      rw [List.length_append, List.length_cons]
      omega
    rw [hlen, List.take_left]
  · rw [List.length_append, List.length_cons]
    omega

/-- The name of this host stands for the loopback address. -/
theorem resolve_localhost (port : UInt16) :
    resolve ("localhost" ++ ":" ++ toString port.toNat) = .ok ⟨.v4 .loopback, port⟩ := by
  have hlist : ("localhost" ++ ":" ++ toString port.toNat).toList =
      "localhost".toList ++ ':' :: (toString port.toNat).toList := by
    rw [String.toList_append, String.toList_append, List.append_assoc]
    rfl
  have hcolon : ':' ∉ (toString port.toNat).toList := by
    intro hc
    cases isDigit_of_mem_toString hc
  have hparse : Endpoint.parse? ("localhost" ++ ":" ++ toString port.toNat) = none := by
    unfold Endpoint.parse?
    rw [hlist]
    rfl
  have hport : readNumeral 10 maxPort (toString port.toNat).toList = .ok port.toNat :=
    readNumeral_toString (Nat.le_of_lt_succ port.toNat_lt)
  unfold resolve
  rw [hparse, hlist]
  dsimp only
  rw [splitLastColon_append hcolon]
  dsimp only
  rw [hport, String.ofList_toList]
  simp

end Tether.Net
