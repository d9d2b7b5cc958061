import Provisioning.Config
import Provisioning.Wire.Resource

/-!
# The written form of a configuration

Every field of a configuration may be missing; the bounds of a wait are given
in full or not at all.
-/

namespace Provisioning.Wire

/-- Bounds of a wait. -/
def stagePolicy : Codec Json StagePolicy :=
  (Record.start StagePolicy.mk
    |>.field "max_wait_ms" (.required Json.word) (·.maxWaitMs)
    |>.field "base_period_ms" (.required Json.word) (·.basePeriodMs)
    |>.field "cap_period_ms" (.required Json.word) (·.capPeriodMs)).codec Json.format

/-- Bounds of every wait. -/
def pollingConfig : Codec Json PollingConfig :=
  let default : PollingConfig := {}
  (Record.start PollingConfig.mk
    |>.field "order_approved" (.defaulted stagePolicy default.orderApproved) (·.orderApproved)
    |>.field "transactions_started" (.defaulted stagePolicy default.transactionsStarted)
      (·.transactionsStarted)
    |>.field "transactions_ended" (.defaulted stagePolicy default.transactionsEnded)
      (·.transactionsEnded)
    |>.field "login_details" (.defaulted stagePolicy default.loginDetails) (·.loginDetails)
    |>.field "catalog_retry" (.defaulted stagePolicy default.catalogRetry)
      (·.catalogRetry)).codec Json.format

/-- Configurations. -/
def config : Codec Json Config :=
  let default : Config := {}
  (Record.start Config.mk
    |>.field "kind" (.defaulted resourceKind default.kind) (·.kind)
    |>.field "package_name" (.defaulted (Json.nullable Json.text) default.packageName?)
      (·.packageName?)
    |>.field "port_speed" (.defaulted (Json.nullable Json.half) default.portSpeed) (·.portSpeed)
    |>.field "prices" (.defaulted (Json.list Json.word) default.prices) (·.prices)
    |>.field "catalog_ttl_secs" (.defaulted Json.word default.catalogTtlSecs) (·.catalogTtlSecs)
    |>.field "domain" (.defaulted Json.text default.domain) (·.domain)
    |>.field "polling" (.defaulted pollingConfig default.polling) (·.polling)).codec Json.format

end Provisioning.Wire
