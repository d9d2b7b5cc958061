import Mathlib.Tactic.MkIffOfInductiveProp
import Provisioning.Config.Document
import Provisioning.Proofs.Toml.Codec
import Provisioning.Proofs.Toml.Document
import Provisioning.Proofs.Workflow.Polling

/-!
# Saved configurations

A configuration is written as a document with its entries at the top and the bounds of
each wait in a section of the group `polling`, and such a document is read from its own
text.  What is read is the configuration that was written, but for the port speed: a
missing one, which stands for every speed, leaves no trace in the document, and whoever
reads it puts the default speed in its place (`Config.refilled`).
-/

namespace Provisioning

open Toml

open Provisioning.Field (required_given defaulted_given omittableOr_found)

open Record (takes_start)

/-! ## The bounds of the waits -/

theorem Toml.read?_word {n : Nat} (h : (n : Int) ≤ maxInt) : word.read? (int n) = some n := by
  refine read?_natCodec ?_
  unfold maxInt at h
  unfold Text.wordBound
  omega

namespace StagePolicy

/-- The numbers are ones that a document can hold. -/
@[mk_iff]
structure Fits (policy : StagePolicy) : Prop where
  maxWaitMs : (policy.maxWaitMs : Int) ≤ maxInt
  basePeriodMs : (policy.basePeriodMs : Int) ≤ maxInt
  capPeriodMs : (policy.capPeriodMs : Int) ≤ maxInt

instance (policy : StagePolicy) : Decidable policy.Fits :=
  decidable_of_iff _ (fits_iff policy).symm

/-- The pauses of a policy in a document grow within words. -/
theorem Fits.pausesFit {policy : StagePolicy} (h : policy.Fits) : policy.PausesFit := by
  have hbase := h.basePeriodMs
  have hcap := h.capPeriodMs
  unfold maxInt at hbase hcap
  unfold PausesFit longestPauseMs Text.wordBound
  omega

/-- The entries of a section. -/
def entries (policy : StagePolicy) : List (String × Toml) :=
  [("max_wait_ms", int policy.maxWaitMs), ("base_period_ms", int policy.basePeriodMs),
    ("cap_period_ms", int policy.capPeriodMs)]

variable {policy : StagePolicy}

theorem read?_entries (h : policy.Fits) : document.read? (table policy.entries) = some policy :=
  (takes_start StagePolicy.mk
    |>.field (required_given (read?_word h.maxWaitMs))
    |>.field (required_given (read?_word h.basePeriodMs))
    |>.field (required_given (read?_word h.capPeriodMs))).codec rfl

theorem plain_entries (h : policy.Fits) : Plain policy.entries := by
  refine .of_keys ["max_wait_ms", "base_period_ms", "cap_period_ms"] (.refl _) (by decide)
    (by decide) ?_
  simp only [entries, List.forall_mem_cons, List.not_mem_nil, false_imp_iff, implies_true, and_true]
  exact ⟨.atom (.int h.maxWaitMs), .atom (.int h.basePeriodMs), .atom (.int h.capPeriodMs)⟩

end StagePolicy

namespace PollingConfig

/-- The numbers are ones that a document can hold. -/
@[mk_iff]
structure Fits (polling : PollingConfig) : Prop where
  orderApproved : polling.orderApproved.Fits
  transactionsStarted : polling.transactionsStarted.Fits
  transactionsEnded : polling.transactionsEnded.Fits
  loginDetails : polling.loginDetails.Fits
  catalogRetry : polling.catalogRetry.Fits

instance (polling : PollingConfig) : Decidable polling.Fits :=
  decidable_of_iff _ (fits_iff polling).symm

/-- The sections of the document. -/
def sections (polling : PollingConfig) : List (String × List (String × Toml)) :=
  [("order_approved", polling.orderApproved.entries),
    ("transactions_started", polling.transactionsStarted.entries),
    ("transactions_ended", polling.transactionsEnded.entries),
    ("login_details", polling.loginDetails.entries),
    ("catalog_retry", polling.catalogRetry.entries)]

variable {polling : PollingConfig}

theorem read?_write (h : polling.Fits) : document.read? (document.write polling) = some polling :=
  (takes_start PollingConfig.mk
    |>.field (defaulted_given (StagePolicy.read?_entries h.orderApproved) _)
    |>.field (defaulted_given (StagePolicy.read?_entries h.transactionsStarted) _)
    |>.field (defaulted_given (StagePolicy.read?_entries h.transactionsEnded) _)
    |>.field (defaulted_given (StagePolicy.read?_entries h.loginDetails) _)
    |>.field (defaulted_given (StagePolicy.read?_entries h.catalogRetry) _)).codec rfl

theorem names_sections (polling : PollingConfig) :
    polling.sections.map (·.1) = ["order_approved", "transactions_started", "transactions_ended",
      "login_details", "catalog_retry"] := rfl

theorem plain_sections (h : polling.Fits) : ∀ part ∈ polling.sections, Plain part.2 := by
  simp only [sections, List.forall_mem_cons, List.not_mem_nil, false_imp_iff, implies_true,
    and_true]
  exact ⟨StagePolicy.plain_entries h.orderApproved, StagePolicy.plain_entries h.transactionsStarted,
    StagePolicy.plain_entries h.transactionsEnded, StagePolicy.plain_entries h.loginDetails,
    StagePolicy.plain_entries h.catalogRetry⟩

end PollingConfig

/-! ## The whole configuration -/

namespace Config

/-- The numbers are ones that a document can hold, and the port speed is one of 32 bits. -/
@[mk_iff]
structure Fits (config : Config) : Prop where
  portSpeed : ∀ speed ∈ config.portSpeed, speed < Text.halfBound
  prices : ∀ price ∈ config.prices, (price : Int) ≤ maxInt
  catalogTtlSecs : (config.catalogTtlSecs : Int) ≤ maxInt
  polling : config.polling.Fits

instance (config : Config) : Decidable config.Fits :=
  decidable_of_iff _ (fits_iff config).symm

/-- The configuration with the default in the place of a missing port speed. -/
def refilled (config : Config) : Config :=
  { config with portSpeed := config.portSpeed.or ({} : Config).portSpeed }

/-- The entries at the top of the document. -/
def entries (config : Config) : List (String × Toml) :=
  ("kind", str (kindName config.kind)) ::
    (config.packageName?.toList.map fun name => ("package_name", str name)) ++
    (config.portSpeed.toList.map fun speed => ("port_speed", half.write speed)) ++
    [("prices", arr (config.prices.map word.write)),
      ("catalog_ttl_secs", int config.catalogTtlSecs), ("domain", str config.domain)]

variable {config : Config}

theorem write_eq (config : Config) :
    document.write config = withSections config.entries "polling" config.polling.sections := by
  obtain ⟨kind, packageName?, portSpeed, prices, catalogTtlSecs, domain, polling⟩ := config
  cases packageName? <;> cases portSpeed <;> rfl

theorem read?_kind (kind : ResourceKind) :
    (choice [.bareMetal, .virtualGuest] kindName).read? (str (kindName kind)) = some kind := by
  cases kind <;> rfl

/-- A document is read as the configuration that it was written for, with the default port
speed where it has none. -/
theorem read?_write (h : config.Fits) :
    document.read? (document.write config) = some config.refilled := by
  have hprices : (list word).read? ((list word).write config.prices) = some config.prices :=
    read?_list fun price hprice => read?_word (h.prices price hprice)
  have hspeed : ∀ speed ∈ config.portSpeed, half.read? (half.write speed) = some speed :=
    fun speed hspeed => read?_natCodec (h.portSpeed speed hspeed)
  have hname : ∀ name ∈ config.packageName?,
      Toml.string.read? (Toml.string.write name) = some name :=
    fun _ _ => rfl
  have hdomain : Toml.string.read? (str config.domain) = some config.domain := rfl
  -- a missing package name is read as the default too, which is that there is none
  have hrefilled : config.refilled = Config.mk config.kind
      (config.packageName?.or ({} : Config).packageName?)
      (config.portSpeed.or ({} : Config).portSpeed) config.prices config.catalogTtlSecs
      config.domain config.polling := by
    have hnone : ({} : Config).packageName? = none := rfl
    rw [hnone, Option.or_none]
    rfl
  rw [hrefilled]
  refine (takes_start Config.mk
    |>.field (defaulted_given (read?_kind config.kind) _)
    |>.field (omittableOr_found hname _)
    |>.field (omittableOr_found hspeed _)
    |>.field (defaulted_given hprices _)
    |>.field (defaulted_given (read?_word h.catalogTtlSecs) _)
    |>.field (defaulted_given hdomain _)
    |>.field (defaulted_given (PollingConfig.read?_write h.polling) _)).codec ?_
  obtain ⟨kind, packageName?, portSpeed, prices, catalogTtlSecs, domain, polling⟩ := config
  cases packageName? <;> cases portSpeed <;> rfl

/-- The keys of the entries, as far as they are there. -/
def keys : List String :=
  ["kind", "package_name", "port_speed", "prices", "catalog_ttl_secs", "domain"]

theorem keys_entries (config : Config) : (config.entries.map (·.1)).Sublist keys := by
  obtain ⟨kind, packageName?, portSpeed, prices, catalogTtlSecs, domain, polling⟩ := config
  cases packageName? <;> cases portSpeed <;> exact of_decide_eq_true rfl

theorem int_of_speed {speed : Nat} (h : speed < Text.halfBound) : (speed : Int) ≤ maxInt := by
  unfold Text.halfBound at h
  unfold maxInt
  omega

theorem plain_entries (h : config.Fits) : Plain config.entries := by
  refine .of_keys keys (keys_entries config) (by decide) (by decide) ?_
  have hprices : ∀ item ∈ config.prices.map word.write, Atom item := by
    intro item hitem
    obtain ⟨price, hprice, rfl⟩ := List.mem_map.mp hitem
    exact .int (h.prices price hprice)
  intro entry hentry
  simp only [entries, List.mem_append, List.mem_cons, List.mem_map, Option.mem_toList,
    List.not_mem_nil, or_false] at hentry
  rcases hentry with ((rfl | ⟨name, -, rfl⟩) | ⟨speed, hspeed, rfl⟩) | rfl | rfl | rfl
  · exact .atom (.str _)
  · exact .atom (.str _)
  · exact .atom (.int (int_of_speed (h.portSpeed speed hspeed)))
  · exact .arr hprices
  · exact .atom (.int h.catalogTtlSecs)
  · exact .atom (.str _)

/-- A configuration that fits is saved, and its text is read as the configuration with the
default in the place of a missing port speed. -/
theorem parse_save (h : config.Fits) :
    ∃ text, config.save = .ok text ∧ Config.parse text = .ok config.refilled := by
  have hpolling : "polling" ∉ config.entries.map (·.1) :=
    fun hin => absurd ((keys_entries config).subset hin) (by decide)
  have hsections : ∀ name ∈ config.polling.sections.map (·.1), BareKey name := by
    rw [PollingConfig.names_sections]
    decide
  obtain ⟨text, hrender, hparse⟩ := parse?_render?_withSections (plain_entries h)
    (by simp [entries]) (by decide) hpolling
    (fun part hpart => hsections _ (List.mem_map_of_mem hpart))
    (PollingConfig.plain_sections h.polling)
    (by rw [PollingConfig.names_sections]; decide) (by simp [PollingConfig.sections])
  rw [← write_eq] at hrender hparse
  refine ⟨text, by rw [save, hrender], ?_⟩
  simp only [Config.parse, hparse, read?_write h]

/-- The port speed is no fault. -/
theorem validate_refilled (config : Config) : config.refilled.validate = config.validate := rfl

theorem refilled_eq_self_iff : config.refilled = config ↔ config.portSpeed ≠ none := by
  obtain ⟨kind, packageName?, portSpeed, prices, catalogTtlSecs, domain, polling⟩ := config
  cases portSpeed <;> simp [refilled]

theorem load_refilled (valid : config.validate = .ok ()) (fits : config.Fits) :
    ∃ text, config.save = .ok text ∧ Config.load (.text text) = .ok config.refilled := by
  obtain ⟨text, hsave, hparse⟩ := parse_save fits
  have hvalid : config.refilled.validate = .ok () := (validate_refilled config).trans valid
  refine ⟨text, hsave, ?_⟩
  simp only [load, hparse, hvalid, bind, Except.bind, pure, Except.pure]

/-- A configuration without faults, whose numbers fit, is saved to a text that is loaded
as the configuration with the default in the place of a missing port speed.  So it is
loaded as it was exactly if it had a port speed. -/
theorem saved_is_loaded (valid : config.validate = .ok ()) (fits : config.Fits) :
    ∃ text, config.save = .ok text ∧
      Config.load (.text text) =
        .ok { config with portSpeed := config.portSpeed.or ({} : Config).portSpeed } ∧
      (Config.load (.text text) = .ok config ↔ config.portSpeed ≠ none) := by
  obtain ⟨text, hsave, hload⟩ := load_refilled valid fits
  refine ⟨text, hsave, hload, ?_⟩
  rw [hload, Except.ok.injEq, refilled_eq_self_iff]

/-- A package name that needs all of its quotes, and numbers as great as they may be. -/
theorem saved_is_loaded_at_the_bounds :
    let config : Config :=
      { kind := .virtualGuest, packageName? := some "Cloud \"M\"\n\x27L\x27",
        portSpeed := some 4294967295, prices := [9223372036854775807, 0], catalogTtlSecs := 0,
        domain := "" }
    config.validate = .ok () ∧ config.Fits ∧
      ∃ text, config.save = .ok text ∧ Config.load (.text text) = .ok config := by
  intro config
  have valid : config.validate = .ok () := by decide
  have fits : config.Fits := by decide
  obtain ⟨text, hsave, -, hload⟩ := saved_is_loaded valid fits
  exact ⟨valid, fits, text, hsave, hload.mpr (by decide)⟩

/-- A configuration for every port speed is loaded as one for the default speed. -/
theorem every_speed_is_not_loaded :
    let config : Config := { portSpeed := none }
    config.validate = .ok () ∧ config.Fits ∧
      ∃ text, config.save = .ok text ∧ Config.load (.text text) = .ok {} ∧
        Config.load (.text text) ≠ .ok config := by
  intro config
  have valid : config.validate = .ok () := by decide
  have fits : config.Fits := by decide
  obtain ⟨text, hsave, hload⟩ := load_refilled valid fits
  refine ⟨valid, fits, text, hsave, hload, ?_⟩
  rw [hload]
  decide

end Config

end Provisioning
