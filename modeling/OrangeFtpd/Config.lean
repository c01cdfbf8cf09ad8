/-
  File:      OrangeFtpd/Config.lean
  Subject:   The configuration (`config/config.h`), as far as the server reads it.

  Every member is filled from the configuration file; one that the file does not
  name keeps whatever it held, so nothing is assumed about any of them.
-/
import OrangeFtpd.Text

namespace OrangeFtpd

/-- `Config`. `data_connection_timeout`, `data_transfer_port`, `port` and
    `upload_speed_limit_in_kb_per_s` are read by no modelled function. -/
structure Config where
  ftpdBanner : Text
  /-- Seconds (`int`). -/
  maxIdleTimeout : Int
  useLocalTime : Bool
  anonymousEnable : Bool
  writeEnable : Bool
  downloadSpeedLimitInKbPerS : UInt16
  deriving DecidableEq, Repr

/-- `config/ftpd.json`. It does not name `anonymous_enable`, which stays zero. -/
def Config.shipped : Config :=
  ⟨"welcom to ftpd".toList, 60, true, false, true, 100⟩

end OrangeFtpd
