import Mathlib.Data.List.DropRight
import Copresence.Client.Backoff

/-! The delays between the attempts to reconnect: whole milliseconds below a cap
that doubles with every attempt since the counter went back to zero. -/
namespace Copresence

open Floating Transition

/-- `random` returns a number between zero and one, and never one. -/
def IsRandom (random : Number binary64) : Prop :=
  ∃ r : binary64.Finite, random = .finite r ∧ 0 ≤ r.value ∧ r.value < 1

/-- The cap of a delay after so many attempts. -/
def exponentialMs (attempt : ℕ) : ℕ := min 10000 (250 * 2 ^ attempt)

section Delay

/-- No cap is zero. -/
theorem exponentialMs_pos (attempt : ℕ) : 0 < exponentialMs attempt := by
  have : 0 < 2 ^ attempt := Nat.two_pow_pos attempt
  rw [exponentialMs]
  omega

/-- No cap is above ten seconds. -/
theorem exponentialMs_le (attempt : ℕ) : exponentialMs attempt ≤ 10000 := by
  rw [exponentialMs]
  omega

/-- Far above the cap the product is above it also where it is infinite. -/
private theorem not_product_lt {attempt : ℕ} (large : 64 ≤ 2 ^ attempt) (base cap : binary64.Finite)
    (isBase : base.value = 250) (isCap : cap.value = 10000) :
    .finite base * (Number.ofRat (2 ^ attempt) : Number binary64) ≠ .nan ∧
      (.finite base * (Number.ofRat (2 ^ attempt) : Number binary64)).lt (.finite cap) = false := by
  have large' : (64 : ℚ) ≤ 2 ^ attempt := by exact_mod_cast large
  by_cases bounded : |binary64.nearest (2 ^ attempt)| ≤ binary64.largest
  · rw [Number.ofRat_eq_finite bounded, Number.finite_mul, isBase]
    have sixtyFour : binary64.Representable ((64 : ℤ) : ℚ) := representable_int (by decide)
    have power := Format.le_nearest sixtyFour (y := 2 ^ attempt) (by exact_mod_cast large)
    push_cast at power
    constructor
    · exact Number.ofRat_ne_nan _
    · apply Number.not_ofRat_lt_finite
      · dsimp only
        linarith
      · rw [isCap]
        dsimp only
        linarith
  · have positive : ¬ (2 : ℚ) ^ attempt < 0 := by linarith
    have more : ¬ (250 : ℚ) < 0 ∧ ¬ (250 : ℚ) = 0 := by norm_num
    rw [Number.ofRat, dif_neg bounded]
    change Number.mul _ _ ≠ _ ∧ (Number.mul _ _).lt _ = _
    simp [Number.mul, Number.lt, isBase, positive, more]

/-- The doubles agree with the numbers: below the cap nothing is rounded. -/
theorem exponential_eq (attempt : ℕ) :
    reconnectMaxBackoffMs.min (baseDelayMs * .ofRat (2 ^ attempt)) =
      .ofRat (exponentialMs attempt) := by
  obtain ⟨cap, hcap, isCap⟩ := exists_ofRat_natCast (n := 10000) (by decide)
  obtain ⟨base, hbase, isBase⟩ := exists_ofRat_natCast (n := 250) (by decide)
  push_cast at hcap hbase isCap isBase
  rw [reconnectMaxBackoffMs, baseDelayMs, hcap, hbase, exponentialMs]
  rcases le_or_gt 64 (2 ^ attempt) with large | small
  · have above := not_product_lt large base cap isBase isCap
    rw [Number.min_of_not_lt above.1 above.2, min_eq_left (by omega)]
    exact hcap.symm
  · obtain ⟨power, hpower, isPower⟩ := exists_ofRat_natCast (n := 2 ^ attempt) (by omega)
    obtain ⟨product, hproduct, isProduct⟩ :=
      exists_ofRat_natCast (n := 250 * 2 ^ attempt) (by omega)
    have exact_product : base.value * power.value = ((250 * 2 ^ attempt : ℕ) : ℚ) := by
      rw [isBase, isPower]
      push_cast
      rfl
    push_cast at hpower
    rw [hpower, Number.finite_mul, exact_product, hproduct, Number.min_finite, isProduct, isCap]
    split
    · next below =>
        have below' : 250 * 2 ^ attempt < 10000 := by exact_mod_cast below
        rw [min_eq_right below'.le, hproduct]
    · next above =>
        have above' : 10000 ≤ 250 * 2 ^ attempt := by exact_mod_cast not_lt.mp above
        rw [min_eq_left above']
        exact hcap.symm

/-- The floor of a number between zero and a whole one. -/
private theorem exists_floor {y : binary64.Finite} {n : ℕ} (nonneg : 0 ≤ y.value)
    (below : y.value < n) :
    ∃ ms : ℕ, (Number.finite y).floor = .ofRat ms ∧ ms < n := by
  have natural : 0 ≤ ⌊y.value⌋ := Int.floor_nonneg.mpr nonneg
  have less : ⌊y.value⌋ < n := Int.floor_lt.mpr (by exact_mod_cast below)
  refine ⟨⌊y.value⌋.toNat, ?_, by omega⟩
  rw [Number.floor]
  congr 1
  exact_mod_cast (Int.toNat_of_nonneg natural).symm

/-- A delay is a whole number of milliseconds below its cap. -/
theorem backoffDelayMs_lt {random : Number binary64} (honest : IsRandom random) (attempt : ℕ) :
    ∃ ms : ℕ, backoffDelayMs attempt reconnectMaxBackoffMs random = .ofRat ms ∧
      ms < exponentialMs attempt := by
  obtain ⟨r, rfl, nonneg, below⟩ := honest
  have small : exponentialMs attempt ≤ 2 ^ 53 := (exponentialMs_le attempt).trans (by decide)
  have large : (1 : ℚ) ≤ exponentialMs attempt := by exact_mod_cast exponentialMs_pos attempt
  obtain ⟨cap, hcap, isCap⟩ := exists_ofRat_natCast small
  rw [backoffDelayMs, exponential_eq, hcap, Number.finite_mul]
  rw [← isCap] at large
  have part : r.value * cap.value ≤ cap.value := by nlinarith
  obtain ⟨product, rounded, isNearest⟩ :=
    Number.exists_ofRat_of_le cap (mul_nonneg nonneg (by linarith)) part
  rw [rounded]
  apply exists_floor
  · rw [isNearest]
    exact Format.nearest_nonneg (mul_nonneg nonneg (by linarith))
  · rw [isNearest, ← isCap]
    exact Format.nearest_mul_lt (by decide) r.representable nonneg below large

end Delay

def Attempt.isWait : Attempt → Bool
  | waits _ => true
  | connected | opened => false

/-- The timers set since the page connected or a socket opened. -/
def failuresIn (attempts : List Attempt) : ℕ := (attempts.rtakeWhile Attempt.isWait).length

/-- Every delay is a whole number below the cap of the failures before it. -/
def Spread (attempts : List Attempt) : Prop :=
  ∀ before delay after, attempts = before ++ .waits delay :: after →
    ∃ ms : ℕ, delay = .ofRat ms ∧ ms < exponentialMs (failuresIn before)

/-- After an attempt that set the counter back, no failure is counted. -/
theorem failuresIn_reset {attempts : List Attempt} {last : Attempt} (reset : last.isWait = false) :
    failuresIn (attempts ++ [last]) = 0 := by
  rw [failuresIn, List.rtakeWhile_concat_neg _ _ _ (by simp [reset])]
  rfl

/-- Each wait is one failure more. -/
theorem failuresIn_waits (attempts : List Attempt) (delay : Number binary64) :
    failuresIn (attempts ++ [.waits delay]) = failuresIn attempts + 1 := by
  rw [failuresIn, List.rtakeWhile_concat_pos _ _ _ rfl, List.length_append]
  rfl

/-- One more attempt keeps the spread when its delay is below the cap of its place. -/
theorem Spread.concat {attempts : List Attempt} (spread : Spread attempts) {last : Attempt}
    (lawful : ∀ delay, last = .waits delay →
      ∃ ms : ℕ, delay = .ofRat ms ∧ ms < exponentialMs (failuresIn attempts)) :
    Spread (attempts ++ [last]) := by
  intro before delay after split
  rcases List.eq_nil_or_concat after with rfl | ⟨init, final, rfl⟩
  · obtain ⟨rfl, same⟩ := List.append_inj' split rfl
    exact lawful delay (List.singleton_inj.mp same)
  · rw [List.concat_eq_append, ← List.cons_append, ← List.append_assoc] at split
    exact spread before delay init (List.append_inj' split rfl).1

namespace Transport

theorem detachSocket_reconnectAttempt (transport : Transport) :
    transport.detachSocket.reconnectAttempt = transport.reconnectAttempt := by
  rw [detachSocket]
  split <;> rfl

theorem openSocket_reconnectAttempt (transport : Transport) (onStatusChange : StatusHandler) :
    (transport.openSocket onStatusChange).reconnectAttempt = transport.reconnectAttempt := by
  simp [openSocket]

theorem disconnect_reconnectAttempt (transport : Transport) (onStatusChange : StatusHandler) :
    (transport.disconnect onStatusChange).reconnectAttempt = transport.reconnectAttempt := by
  have stopped : transport.stopped.reconnectAttempt = transport.reconnectAttempt := by
    rw [Transport.stopped, clearReconnectTimer]
    split <;> rfl
  rw [disconnect]
  split
  · rfl
  · split
    · exact stopped
    · simp [stopped]

end Transport

namespace PacedTransport

/-- The counter of the connection is the number of failures on record. -/
structure Paces (paced : PacedTransport) : Prop where
  counted : paced.reconnectAttempt = failuresIn paced.attempts
  spread : Spread paced.attempts

variable {random : ℕ → Number binary64} {paced : PacedTransport}

/-- What leaves the counter and the record alone keeps them in agreement. -/
theorem Paces.of_same {other : PacedTransport} (paces : paced.Paces)
    (counter : other.reconnectAttempt = paced.reconnectAttempt)
    (record : other.attempts = paced.attempts) : other.Paces := by
  constructor
  · rw [counter, record]
    exact paces.counted
  · rw [record]
    exact paces.spread

/-- The record of a reset, when the counter is zero. -/
theorem Paces.reset {other : PacedTransport} (paces : paced.Paces) (last : Attempt)
    (isReset : last.isWait = false) (zero : other.reconnectAttempt = 0)
    (record : other.attempts = paced.attempts ++ [last]) : other.Paces := by
  constructor
  · rw [zero, record, failuresIn_reset isReset]
  · rw [record]
    apply paces.spread.concat
    rintro delay rfl
    cases isReset

/-- A connect waits for nothing. -/
theorem paces_connect (paces : paced.Paces) (onStatusChange : StatusHandler) :
    (paced.connect onStatusChange).Paces := by
  rw [connect]
  split
  · exact paces
  · next settled =>
      apply paces.reset .connected rfl _ rfl
      dsimp only
      rw [Transport.connect_of_settled (by simpa using settled)]
      simp [Transport.openSocket]

/-- An opened socket sets the counter back. -/
theorem paces_handleOpen (paces : paced.Paces) (onStatusChange : StatusHandler)
    (reading : SocketReading) : (paced.handleOpen onStatusChange reading).Paces := by
  apply paces.reset .opened rfl _ rfl
  simp [handleOpen, Transport.handleOpen]

/-- A timer more: the delay was drawn for the counter before. -/
theorem paces_scheduleReconnect (honest : ∀ n, IsRandom (random n)) (paces : paced.Paces)
    (onStatusChange : StatusHandler) : (paced.scheduleReconnect random onStatusChange).Paces := by
  rw [scheduleReconnect]
  split
  · exact paces
  · next goesOn =>
      have told : (paced.toTransport.setStatus .reconnecting onStatusChange).reconnectAttempt =
          failuresIn paced.attempts := by
        simp [paces.counted]
      dsimp only
      rw [told]
      constructor
      · dsimp only
        rw [failuresIn_waits, ← told, Transport.scheduleReconnect, if_neg goesOn]
      · apply paces.spread.concat
        rintro delay ⟨rfl⟩
        exact backoffDelayMs_lt (honest _) _

/-- A close schedules the next attempt under the cap of its place. -/
theorem paces_handleClose (honest : ∀ n, IsRandom (random n)) (paces : paced.Paces)
    (onStatusChange : StatusHandler) : (paced.handleClose random onStatusChange).Paces := by
  have detached : ({ paced with toTransport := paced.toTransport.detachSocket }).Paces := by
    exact paces.of_same (Transport.detachSocket_reconnectAttempt _) rfl
  rw [handleClose]
  dsimp only
  split
  · refine detached.of_same ?_ rfl
    simp
  · exact paces_scheduleReconnect honest detached onStatusChange

/-- Every event keeps the delays below their caps. -/
theorem paces_step (honest : ∀ n, IsRandom (random n)) (paces : paced.Paces)
    (event : TransportEvent) : (paced.step random event).Paces := by
  cases event with
  | connect onStatusChange => exact paces_connect paces onStatusChange
  | disconnect onStatusChange =>
      exact paces.of_same (Transport.disconnect_reconnectAttempt _ _) rfl
  | send message reading =>
      refine paces.of_same ?_ rfl
      simp [step, Transport.step]
  | opened socket onStatusChange reading =>
      rw [step]
      split
      · exact paces_handleOpen paces onStatusChange reading
      · exact paces
  | message => exact paces
  | closed socket onStatusChange =>
      have reported : ({ paced with closing := paced.closing.filter (· ≠ socket) }).Paces :=
        paces.of_same rfl rfl
      rw [step]
      dsimp only
      split
      · exact paces_handleClose honest reported onStatusChange
      · exact reported
  | errored socket onStatusChange =>
      rw [step]
      split
      · exact paces_handleClose honest paces onStatusChange
      · exact paces
  | timer handle onStatusChange =>
      refine paces.of_same ?_ rfl
      rw [step_toTransport, Transport.step]
      split
      · rw [Transport.openSocket_reconnectAttempt]
      · rfl

/-- In every run of a connection each timer waits a whole number of milliseconds
below `250 * 2 ^ k` and below ten seconds, for the `k` timers set since the page
last connected or a socket last opened. -/
theorem delays_spread {random : ℕ → Number binary64} (honest : ∀ n, IsRandom (random n))
    (events : List TransportEvent) :
    Spread (run (step random) ({} : PacedTransport) events).attempts := by
  have initially : ({} : PacedTransport).Paces := by
    constructor
    · rfl
    · intro before delay after split
      simp at split
  exact (invariant_run (P := Paces) (fun _ event paces => paces_step honest paces event) initially
    events).spread

private def half : binary64.Finite where
  value := 1 / 2
  representable := ⟨1, -1, by decide, by decide, by norm_num⟩
  bounded := by
    have large := two_pow_le_largest
    rw [abs_of_pos (by norm_num)]
    linarith

/-- The server is away for two attempts. -/
theorem delays_spread_twice :
    let failing : List TransportEvent := [.connect fun _ => [], .closed 0 fun _ => [],
      .timer 0 fun _ => [], .errored 1 fun _ => []]
    let attempts := (run (step fun _ => .finite half) ({} : PacedTransport) failing).attempts
    attempts = [.connected, .waits (.ofRat 125), .waits (.ofRat 250)] ∧ Spread attempts := by
  constructor
  · decide +kernel
  · apply delays_spread
    intro
    exact ⟨half, rfl, by norm_num [half], by norm_num [half]⟩

end PacedTransport

end Copresence
