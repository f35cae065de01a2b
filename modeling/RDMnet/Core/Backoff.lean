import RDMnet.Disc.Conflict

/-!
# Random backoffs

A target waits a random part of `LLRP_MAX_BACKOFF_MS` before it answers a probe request, a broker a
random part of `BROKER_REG_QUERY_TIMEOUT` before it is registered.  The product with the value of
`rand()` is formed in `int` before it is divided.
-/

namespace RDMnet

/-- `RAND_MAX`, which is also the greatest `int`. -/
abbrev randMax : Nat := 2147483647

/-- `LLRP_MAX_BACKOFF_MS` -/
abbrev llrpMaxBackoffMs : Nat := 1500

/-- `LLRP_TIMEOUT_MS` -/
abbrev llrpTimeoutMs : Nat := 2000

/-- `a * b / RAND_MAX` for values of type `int` that are not negative: no value if the product
overflows. -/
def intMulDivRandMax (a b : Nat) : Option Nat :=
  if a * b ≤ randMax then some (a * b / randMax) else none

/-- The backoff in `target_handle_llrp_message`, where `rand()` gives `r`. -/
def replyBackoff (r : Nat) : Option Nat := intMulDivRandMax r llrpMaxBackoffMs

/-- The backoff in `process_broker_state`. -/
def registrationBackoff (r : Nat) : Option Nat := intMulDivRandMax brokerRegQueryTimeout r

/-- At `r`, the backoff is the part of the limit that it should be: at most the limit, and not less
than for a smaller value of `rand()`. -/
structure PartOf (limit : Nat) (backoff : Nat → Option Nat) (r : Nat) : Prop where
  value : backoff r = some (r * limit / randMax)
  le : r * limit / randMax ≤ limit
  mono : ∀ r' ≤ r, ∃ b ≤ r * limit / randMax, backoff r' = some b

theorem partOf_iff {limit : Nat} {backoff : Nat → Option Nat} (hlimit : 0 < limit)
    (hb : ∀ r, backoff r = if r * limit ≤ randMax then some (r * limit / randMax) else none) (r : Nat) :
    PartOf limit backoff r ↔ r * limit ≤ randMax := by
  constructor
  · intro h
    by_contra hover
    have hv := h.value
    rw [hb, if_neg hover] at hv
    cases hv
  · intro hfits
    have hr : r ≤ randMax := le_trans (Nat.le_mul_of_pos_right r hlimit) hfits
    refine ⟨by rw [hb, if_pos hfits], ?_, fun r' hr' => ?_⟩
    · exact Nat.div_le_of_le_mul (Nat.mul_le_mul_right limit hr)
    · have hle : r' * limit ≤ r * limit := Nat.mul_le_mul_right limit hr'
      exact ⟨_, Nat.div_le_div_right hle, by rw [hb, if_pos (le_trans hle hfits)]⟩

/-- **Random backoffs lie in their range** exactly for the values of `rand()` whose product with the
limit is an `int`, which are less than a thousandth of them.  The reply of a target is then due before
the manager's probe times out. -/
theorem backoff_partOf_iff (r : Nat) : (PartOf llrpMaxBackoffMs replyBackoff r ↔ r ≤ 1431655) ∧
    (PartOf brokerRegQueryTimeout registrationBackoff r ↔ r ≤ 715827) ∧
    ∀ b, replyBackoff r = some b → b ≤ llrpMaxBackoffMs ∧ b < llrpTimeoutMs := by
  refine ⟨(partOf_iff (by decide) (fun _ => rfl) r).trans ?_,
    (partOf_iff (by decide) (fun r => ?_) r).trans ?_, fun b hb => ?_⟩
  · show r * 1500 ≤ 2147483647 ↔ _
    omega
  · rw [registrationBackoff, intMulDivRandMax, Nat.mul_comm]
  · show r * 3000 ≤ 2147483647 ↔ _
    omega
  · rw [replyBackoff, intMulDivRandMax] at hb
    split_ifs at hb with hfits
    obtain rfl := Option.some.inj hb
    have hb : r * llrpMaxBackoffMs / randMax ≤ 1 := Nat.div_le_of_le_mul (by omega)
    exact ⟨le_trans hb (by decide), Nat.lt_of_le_of_lt hb (by decide)⟩

/-- The product overflows for the first value of `rand()` behind these, and for the greatest. -/
theorem backoff_overflows : (replyBackoff 1431656 = none ∧ replyBackoff randMax = none) ∧
    registrationBackoff 715828 = none ∧ registrationBackoff randMax = none := by
  decide

end RDMnet
