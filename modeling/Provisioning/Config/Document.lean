import Provisioning.Config
import Provisioning.Toml.Codec
import Provisioning.Toml.Parser
import Provisioning.Toml.Printer
import Provisioning.Vendor.Saved

/-!
# The configuration file

A configuration is a TOML document.  What the document leaves out has its
default, and a file that does not exist leaves out everything.
-/

namespace Provisioning

namespace StagePolicy

/-- Bounds of a wait, all of which must be given. -/
def document : Codec Toml StagePolicy :=
  (Record.start StagePolicy.mk
    |>.field "max_wait_ms" (.required Toml.word) (·.maxWaitMs)
    |>.field "base_period_ms" (.required Toml.word) (·.basePeriodMs)
    |>.field "cap_period_ms" (.required Toml.word) (·.capPeriodMs)).codec Toml.format

end StagePolicy

namespace PollingConfig

/-- Bounds of every wait. -/
def document : Codec Toml PollingConfig :=
  let default : PollingConfig := {}
  let bounds := StagePolicy.document
  (Record.start PollingConfig.mk
    |>.field "order_approved" (.defaulted bounds default.orderApproved) (·.orderApproved)
    |>.field "transactions_started" (.defaulted bounds default.transactionsStarted)
      (·.transactionsStarted)
    |>.field "transactions_ended" (.defaulted bounds default.transactionsEnded)
      (·.transactionsEnded)
    |>.field "login_details" (.defaulted bounds default.loginDetails) (·.loginDetails)
    |>.field "catalog_retry" (.defaulted bounds default.catalogRetry)
      (·.catalogRetry)).codec Toml.format

end PollingConfig

namespace Config

/-- The name of a kind of resource in a document. -/
def kindName : ResourceKind → String
  | .bareMetal => "bare_metal"
  | .virtualGuest => "virtual_guest"

/-- Configurations. -/
def document : Codec Toml Config :=
  let default : Config := {}
  (Record.start Config.mk
    |>.field "kind" (.defaulted (Toml.choice [.bareMetal, .virtualGuest] kindName) default.kind)
      (·.kind)
    |>.field "package_name" (.omittableOr Toml.string default.packageName?) (·.packageName?)
    |>.field "port_speed" (.omittableOr Toml.half default.portSpeed) (·.portSpeed)
    |>.field "prices" (.defaulted (Toml.list Toml.word) default.prices) (·.prices)
    |>.field "catalog_ttl_secs" (.defaulted Toml.word default.catalogTtlSecs) (·.catalogTtlSecs)
    |>.field "domain" (.defaulted Toml.string default.domain) (·.domain)
    |>.field "polling" (.defaulted PollingConfig.document default.polling)
      (·.polling)).codec Toml.format

/-- The configuration that a text holds, without a look at its faults. -/
def parse (text : String) : Except Error Config :=
  match Toml.parse? text with
  | none => .error (.configParse "the text is no TOML document")
  | some tree =>
    match document.read? tree with
    | none => .error (.configParse "a value of the document has the wrong type")
    | some config => .ok config

/-- The configuration of a file.  It must have no fault. -/
def load (file : FileContent) : Except Error Config :=
  match file with
  | .missing => .ok {}
  | .unreadable reason => .error (.io reason)
  | .text content => do
    let config ← parse content
    config.validate
    return config

/-- The text of the configuration's file. -/
def save (config : Config) : Except Error String :=
  match Toml.render? (document.write config) with
  | some text => .ok text
  | none => .error (.configEncode "a number is out of range")

end Config

end Provisioning
