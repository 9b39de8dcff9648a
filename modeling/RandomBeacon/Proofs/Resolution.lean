import RandomBeacon.Demo.Program
import RandomBeacon.Proofs.Acceptance

/-!
Which configuration the demonstration runs with. A file is judged as it is read, and the
configuration that comes out of the command line is judged again
(`Demo.resolve_judges_file_then_effective`), so an address on the command line cannot repair a
file without one (`Demo.override_cannot_repair_file`).
-/

namespace RandomBeacon

namespace Config

open ConfigProblem

variable {c : Config}

/-- The configuration with the address that a command line gives, if it gives one. -/
def withAddress (c : Config) (address : Option String) : Config :=
  { c with beaconAddress := address.getD c.beaconAddress }

/-- Only one check looks at the address. -/
theorem afflicts_withAddress (address : Option String) {p : ConfigProblem}
    (other : p ≠ .emptyBeaconAddress) : p.Afflicts (c.withAddress address) ↔ p.Afflicts c := by
  cases p with
  | emptyBeaconAddress => exact absurd rfl other
  | zeroRequestTimeout => exact Iff.rfl
  | zeroMaxAttempts => exact Iff.rfl
  | zeroBaseDelay => exact Iff.rfl
  | maxDelayBelowBase base cap => exact Iff.rfl
  | invalidMultiplier x => exact Iff.rfl

/-- What a file describes, acceptable or not. -/
def File.read? : File → Option Config
  | .content bytes => (String.fromUTF8? bytes).bind Config.read?
  | .missing | .directory => none

theorem load_of_read {file : File} {own : Config} (described : file.read? = some own) :
    load file = own.validate := by
  cases file with
  | missing => cases described
  | directory => cases described
  | content bytes =>
    obtain ⟨document, text, read⟩ := Option.bind_eq_some_iff.mp described
    simp only [load, text, parse, read]

end Config

namespace Demo

open Config

variable {file : Option File} {own : Config}

/-- The configuration before the command line has its say: that of the file, or the default. -/
def described? : Option File → Option Config
  | some file => file.read?
  | none => some { beaconAddress := defaultAddress }

theorem default_acceptable : ({ beaconAddress := defaultAddress } : Config).Acceptable :=
  acceptable_iff.mpr (by decide +kernel)

/-- The file's configuration is judged, and then the effective one. -/
theorem resolve_eq (described : described? file = some own) (address : Option String) :
    resolve file address = (own.validate >>= fun c => (c.withAddress address).validate) := by
  cases file with
  | none =>
    cases described
    have passes : validate { beaconAddress := defaultAddress } = _ := default_acceptable
    rw [passes]
    rfl
  | some file =>
    rw [resolve, load_of_read described]
    rfl

theorem resolve_of_acceptable (described : described? file = some own) (accepted : own.Acceptable)
    (address : Option String) : resolve file address = (own.withAddress address).validate := by
  rw [resolve_eq described, accepted]
  rfl

theorem resolve_of_not_acceptable (described : described? file = some own)
    (refused : ¬own.Acceptable) (address : Option String) :
    resolve file address = .error (.invalid own.problems) := by
  rw [resolve_eq described, validate_of_not_acceptable refused]
  rfl

/-- A configuration is had exactly if both the described one and the effective one are acceptable,
and it is the effective one. Else the report is on the effective one, unless the described one was
refused before; then it differs from the report on the effective one in the address at most. -/
theorem resolve_judges_file_then_effective (described : described? file = some own)
    (address : Option String) :
    ((∃ c, resolve file address = .ok c) ↔
      own.Acceptable ∧ (own.withAddress address).Acceptable) ∧
    (∀ c, resolve file address = .ok c → c = own.withAddress address) ∧
    (∀ e, resolve file address = .error e → ∃ ps, e = .invalid ps ∧
      (own.Acceptable → (own.withAddress address).Report ps) ∧
      (¬own.Acceptable → own.Report ps) ∧
      ∀ p, p ≠ .emptyBeaconAddress → (p ∈ ps ↔ p.Afflicts (own.withAddress address))) := by
  by_cases accepted : own.Acceptable
  · rw [resolve_of_acceptable described accepted]
    by_cases effective : (own.withAddress address).Acceptable
    · have passes : (own.withAddress address).validate = _ := effective
      rw [passes]
      refine ⟨iff_of_true ⟨_, rfl⟩ ⟨accepted, effective⟩, ?_, nofun⟩
      rintro c ⟨⟩
      rfl
    · rw [validate_of_not_acceptable effective]
      refine ⟨iff_of_false nofun fun both => effective both.2, nofun, ?_⟩
      rintro e ⟨⟩
      have report := (own.withAddress address).report_problems
      exact ⟨_, rfl, fun _ => report, fun refused => absurd accepted refused,
        fun p _ => report.mem_iff p⟩
  · rw [resolve_of_not_acceptable described accepted]
    refine ⟨iff_of_false nofun fun both => accepted both.1, nofun, ?_⟩
    rintro e ⟨⟩
    have report := own.report_problems
    exact ⟨_, rfl, fun acceptable => absurd acceptable accepted, fun _ => report,
      fun p other => (report.mem_iff p).trans (afflicts_withAddress address other).symm⟩

/-- An address of blanks on the command line spoils what the file says. -/
theorem resolve_judges_file_then_effective_blank :
    let file := File.content "beacon_address = 'beacon.test'".toUTF8
    described? (some file) = some { beaconAddress := "beacon.test" } ∧
    (¬∃ c, resolve (some file) (some " ") = .ok c) ∧
    ∃ c, resolve (some file) (some "b") = .ok c ∧ c = { beaconAddress := "b" } := by
  intro file
  have described : described? (some file) = some { beaconAddress := "beacon.test" } := by
    have text : String.fromUTF8? "beacon_address = 'beacon.test'".toUTF8 =
        some "beacon_address = 'beacon.test'" := by decide +kernel
    have read : Config.read? "beacon_address = 'beacon.test'" =
        some { beaconAddress := "beacon.test" } := by decide +kernel
    rw [described?, File.read?, text, Option.bind_some, read]
  have spoilt : ¬Acceptable { beaconAddress := " " } := by
    rw [acceptable_iff]
    decide +kernel
  have own : Acceptable { beaconAddress := "beacon.test" } := acceptable_iff.mpr (by decide +kernel)
  have repaired : Acceptable { beaconAddress := "b" } := acceptable_iff.mpr (by decide +kernel)
  obtain ⟨refused, _⟩ := resolve_judges_file_then_effective described (some " ")
  obtain ⟨passes, is, _⟩ := resolve_judges_file_then_effective described (some "b")
  obtain ⟨c, resolved⟩ := passes.mpr ⟨own, repaired⟩
  exact ⟨described, fun resolved => spoilt (refused.mp resolved).2, c, resolved, is c resolved⟩

/-- A file without an address is refused for that, also where the command line gives one. -/
theorem override_cannot_repair_file :
    ¬∀ (file : Option File) (own : Config) (address : Option String),
      described? file = some own →
      ((∃ c, resolve file address = .ok c) ↔ (own.withAddress address).Acceptable) := by
  intro judged_once
  have described : described? (some (.content "".toUTF8)) = some {} := by
    have text : String.fromUTF8? "".toUTF8 = some "" := by decide +kernel
    have read : Config.read? "" = some {} := by decide +kernel
    rw [described?, File.read?, text, Option.bind_some, read]
  have refused : ¬Acceptable {} := by
    rw [acceptable_iff]
    decide +kernel
  have repaired : Acceptable (withAddress {} (some "override")) :=
    acceptable_iff.mpr (by decide +kernel)
  obtain ⟨c, resolved⟩ := (judged_once _ _ (some "override") described).mpr repaired
  rw [resolve_of_not_acceptable described refused] at resolved
  cases resolved

end Demo

end RandomBeacon
