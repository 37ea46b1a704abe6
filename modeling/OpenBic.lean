import OpenBic.Pldm.Read
import OpenBic.Mctp.Control
import OpenBic.Flash.Stage
import OpenBic.Ssif.Read
import OpenBic.Ssif.Answer
import OpenBic.Obmf.RoundTrip
import OpenBic.Obmf.ConfigRuns
import OpenBic.Obmf.Merging
import OpenBic.Obmf.KcsBridge
import OpenBic.Hal.I2cTarget
import OpenBic.Ipmb.Bridge
import OpenBic.Hal.Edaf
import OpenBic.Ncsi.Request
import OpenBic.Cci.Request
import OpenBic.Mctp.Split
import OpenBic.Mctp.Bounds
import OpenBic.Mctp.Smbus
import OpenBic.Mctp.Usb
import OpenBic.Mctp.FlashRuns
import OpenBic.Obmf.GpioNotify
import OpenBic.Ipmb.Frame
import OpenBic.Ipmb.Sweep
import OpenBic.Pldm.IpmiBridge
import OpenBic.Pldm.Oem
import OpenBic.Pldm.SmbiosPaging
import OpenBic.Pldm.PdrEnumeration
import OpenBic.Obmf.Dispatch
import OpenBic.Pldm.UpdateRequest
import OpenBic.Pldm.Descriptor
import OpenBic.Sensor.Hooks
import OpenBic.Vr.Xdpe15284Protect
import OpenBic.Vr.Isl69259
import OpenBic.Vr.Mp2971Parse
import OpenBic.Vr.Tda38741
import OpenBic.Vr.Xdpe15284File
import OpenBic.Host.Pcc
import OpenBic.Flash.Retimer
import OpenBic.Host.Usb
import OpenBic.Storage.Fru
import OpenBic.Host.Kcs
import OpenBic.Ipmi.Oem1s
import OpenBic.Ipmi.Watchdog
import OpenBic.Dev.Sbmr
import OpenBic.Dev.Mpro
import OpenBic.Ipmi.Notify
import OpenBic.Sensor.IndexMap
import OpenBic.Sensor.PollState
import OpenBic.Util.Worker
import OpenBic.Pldm.BiosVersion
import OpenBic.Hal.I3c
import OpenBic.Ipmi.Apml
import OpenBic.Aalc.ErrorLog
import OpenBic.SbRb.EventLog
import OpenBic.Aalc.PumpHandOver
import OpenBic.Aalc.PumpTime
import OpenBic.Aalc.Fsc
import OpenBic.Dev.Pt5161lUpdate
import OpenBic.Pldm.StateEffecter
import OpenBic.Sensor.Char16
import OpenBic.Aalc.Threshold
import OpenBic.SbRb.IrisWrite
import OpenBic.SbRb.PowerClamp
import OpenBic.SbRb.Adc
