import ApiCatalog.Proofs.SettingsLayers
import Mathlib.Algebra.Order.Field.Basic
import Mathlib.Data.Rat.Cast.Order

/-!
Which settings are accepted. A timeout is refused if it is zero or below, which what is not a number
is not, and a level if its name in capitals is not known. All that is refused is reported, but for a
project file whose path cannot be looked up.
-/

set_option autoImplicit false

namespace ApiCatalog

namespace Binary64

-- The value of a finite number.
def toRat (x : Binary64) : ℚ :=
  (if x.isNegative then -1 else 1) * x.significand * 2 ^ x.exponent

def IsPositive (x : Binary64) : Prop :=
  if x.isInfinite then x.isNegative = false else x.isNaN = false ∧ 0 < x.toRat

theorem significand_eq_zero_iff (x : Binary64) : x.significand = 0 ↔ x.code = 0 := by
  unfold significand fractionUnit
  split <;> omega

theorem toRat_pos_iff (x : Binary64) :
    0 < x.toRat ↔ x.isNegative = false ∧ x.isZero = false := by
  have scale : (0 : ℚ) < 2 ^ x.exponent := zpow_pos two_pos _
  have zero : x.isZero = false ↔ (0 : ℚ) < x.significand := by
    rw [Nat.cast_pos, Nat.pos_iff_ne_zero, ne_eq, significand_eq_zero_iff]
    simp [isZero]
  rw [zero, toRat, mul_pos_iff_of_pos_right scale]
  cases x.isNegative <;> simp

theorem number_of_isInfinite {x : Binary64} (infinite : x.isInfinite) :
    x.isNaN = false ∧ x.isZero = false := by
  have code : x.code = infinityCode := by simpa [isInfinite] using infinite
  simp [isNaN, isZero, code, infinityCode, fractionUnit]

theorem IsPositive.isNumber {x : Binary64} (positive : x.IsPositive) : x.isNaN = false := by
  unfold IsPositive at positive
  split at positive
  next infinite => exact (number_of_isInfinite infinite).1
  next => exact positive.1

theorem isNonpositive_eq_false_iff (x : Binary64) :
    x.isNonpositive = false ↔ x.isNaN ∨ x.IsPositive := by
  unfold IsPositive
  by_cases infinite : x.isInfinite
  · obtain ⟨number, nonzero⟩ := number_of_isInfinite infinite
    simp [isNonpositive, infinite, number, nonzero]
  · rw [if_neg infinite, toRat_pos_iff]
    cases number : x.isNaN <;> simp [isNonpositive, number]

end Binary64

namespace Settings

structure Valid (settings : Settings) : Prop where
  timeout : settings.fetchTimeout.IsPositive
  level : settings.logLevel ∈ levels
  capitals : Text.upper settings.logLevel = settings.logLevel

-- Settings that are valid, or a report of what is wrong.
def Proper : Except (Failure SettingsError) Settings → Prop
  | .ok settings => settings.Valid
  | .error (.reported _) => True
  | .error (.crashed _) => False

theorem upper_of_mem_levels {level : String} (known : level ∈ levels) :
    Text.upper level = level := by
  have each : ∀ name ∈ levels, Text.upper name = name := by decide +kernel
  exact each level known

section Surroundings

variable {conversions : Conversions} {disk : Disk} {directory : PathName}
  {environment : Environment} {root level : Option String}

theorem isFile_error_iff {path : PathName} {crash : Crash} :
    disk.isFile path = .error crash ↔
      disk.lookUp path = .error .longName ∧ crash = .longFileName := by
  rw [Disk.isFile, map_eq_error, Disk.existing?]
  cases disk.lookUp path with
  | ok entry => simp
  | error e => cases e <;> simp [eq_comm]

theorem reported_ne_crashed {E A : Type} {result : Except E A} {report : E → SettingsError}
    {crash : Crash} :
    result.mapError (fun e => Failure.reported (report e)) ≠ .error (.crashed crash) := by
  cases result <;> nofun

-- Once it is known whether the file is there, all that can go wrong is reported.
theorem ofProject_crashed_iff {crash : Crash} :
    ofProject disk directory = .error (.crashed crash) ↔
      disk.isFile (directory.append (.ofText projectFile)) = .error crash := by
  cases found : disk.isFile (directory.append (.ofText projectFile)) with
  | error c => simp [ofProject, found, bind, Except.bind, mapError_error]
  | ok present =>
    refine iff_of_false (fun failed => ?_) (by simp)
    simp only [ofProject, found] at failed
    rcases bind_eq_error.1 failed with unlikely | ⟨isThere, -, failed⟩
    · cases unlikely
    cases isThere with
    | false => cases failed
    | true =>
      rcases bind_eq_error.1 failed with unread | ⟨text, -, failed⟩
      · exact reported_ne_crashed unread
      rcases bind_eq_error.1 failed with malformed | ⟨value, -, failed⟩
      · exact reported_ne_crashed malformed
      cases value <;> cases failed

theorem ofSurroundings_crashed_iff :
    (∃ crash, ofSurroundings conversions disk directory environment root level =
        .error (.crashed crash)) ↔
      disk.lookUp (directory.append (.ofText projectFile)) = .error .longName := by
  simp only [ofSurroundings, bind_eq_error, ofProject_crashed_iff, isFile_error_iff]
  constructor
  · rintro ⟨crash, long | ⟨project, -, failed⟩⟩
    · exact long.1
    · exact absurd failed reported_ne_crashed
  · intro long
    exact ⟨.longFileName, .inl ⟨long, rfl⟩⟩

theorem valid_of_ofSurroundings {settings : Settings}
    (settled : ofSurroundings conversions disk directory environment root level = .ok settings)
    (number : settings.fetchTimeout.isNaN = false) : settings.Valid := by
  obtain ⟨project, -, settled⟩ := bind_eq_ok.1 settled
  obtain ⟨merged, checked, -, -, valid⟩ := settle_eq_ok.1 (mapError_eq_ok.1 settled)
  obtain ⟨known, positive, rfl⟩ := validate_eq_ok.1 valid
  have timeout := (Binary64.isNonpositive_eq_false_iff _).1 positive
  exact ⟨timeout.resolve_left (ne_true_of_eq_false number), known, upper_of_mem_levels known⟩

end Surroundings

/-- Settings that are found have a positive timeout and a known level in capitals, and everything
else is reported, exactly if the path of the project file is not too long to be looked up and no
timeout is let through that is not a number. -/
theorem ofSurroundings_proper_iff (conversions : Conversions) (disk : Disk) (directory : PathName)
    (environment : Environment) (root level : Option String) :
    Proper (ofSurroundings conversions disk directory environment root level) ↔
      disk.lookUp (directory.append (.ofText projectFile)) ≠ .error .longName ∧
      ∀ settings, ofSurroundings conversions disk directory environment root level = .ok settings →
        settings.fetchTimeout.isNaN = false := by
  rw [ne_eq, ← @ofSurroundings_crashed_iff conversions disk directory environment root level]
  cases settled : ofSurroundings conversions disk directory environment root level with
  | ok settings =>
    constructor
    · intro (valid : settings.Valid)
      refine ⟨nofun, fun found same => ?_⟩
      cases same
      exact valid.timeout.isNumber
    · rintro ⟨-, numbers⟩
      exact valid_of_ofSurroundings settled (numbers settings rfl)
  | error failure =>
    cases failure with
    | reported e => simp [Proper]
    | crashed crash => simp [Proper]

theorem ofSurroundings_proper_nan :
    let environment : Environment := [("REQCRAFT_FETCH_TIMEOUT", "nan")]
    ofSurroundings .standard {} {} environment none none = .ok { fetchTimeout := .notANumber } ∧
      ¬ Proper (ofSurroundings .standard {} {} environment none none) := by
  intro environment
  have settled : ofSurroundings .standard {} {} environment none none =
      .ok { fetchTimeout := .notANumber } := eq_ok_of_mem (by decide +kernel)
  refine ⟨settled, ?_⟩
  rw [settled]
  intro (valid : Settings.Valid _)
  exact absurd valid.timeout.isNumber (by decide +kernel)

end Settings

end ApiCatalog
