import Hotplug.Datum.Basic
import Hotplug.Device
import Hotplug.Hid.Descriptor
import Hotplug.Report
import Hotplug.Serial.Line
/-!
# Documents about devices

How devices, filters, codes, levels and line codings are written into documents and read from them.

## Main definitions

* Instances of `Hotplug.Coded` for the types of the library.
-/

namespace Hotplug

namespace Coded

instance : Coded Family :=
  ofNames Family.name Family.ofName?

instance : Coded Status :=
  ofNames Status.name Status.ofName?

instance : Coded Code :=
  ofNames Code.name Code.ofName?

instance : Coded Level :=
  ofNames Level.name Level.ofName?

instance : Coded Serial.Parity :=
  ofNames Serial.Parity.name Serial.Parity.ofName?

instance : Coded Serial.FlowControl :=
  ofNames Serial.FlowControl.name Serial.FlowControl.ofName?

/-- A rate is written as its number of bits per second. -/
instance : Coded Serial.Rate where
  encode rate := encode rate.bps
  decode? dialect datum := (decode? dialect datum).bind Serial.Rate.ofBps?

instance : Coded Info where
  encode info := .record [
    ("key", encode info.key),
    ("device_type", encode info.family),
    ("location", encode info.location),
    ("interface_number", encode info.interface),
    ("path", encode info.path),
    ("vid", encode info.vid),
    ("pid", encode info.pid),
    ("manufacturer", encode info.manufacturer),
    ("product", encode info.product),
    ("serial_number", encode info.serialNumber)]
  decode? dialect datum := do
    let fields ← datum.fields? dialect 10
    return {
      key := ← required dialect fields 0 "key"
      family := ← required dialect fields 1 "device_type"
      location := ← required dialect fields 2 "location"
      interface := ← required dialect fields 3 "interface_number"
      path := ← required dialect fields 4 "path"
      vid := ← required dialect fields 5 "vid"
      pid := ← required dialect fields 6 "pid"
      manufacturer := ← withDefault none dialect fields 7 "manufacturer"
      product := ← withDefault none dialect fields 8 "product"
      serialNumber := ← withDefault none dialect fields 9 "serial_number" }

instance : Coded Filter where
  encode filter := .record [
    ("device_type", encode filter.family),
    ("vid", encode filter.vid),
    ("pid", encode filter.pid)]
  decode? dialect datum := do
    let fields ← datum.fields? dialect 3
    return {
      family := ← withDefaultIfNamed none dialect fields 0 "device_type"
      vid := ← withDefaultIfNamed none dialect fields 1 "vid"
      pid := ← withDefaultIfNamed none dialect fields 2 "pid" }

instance : Coded Serial.Settings where
  encode settings := .record [
    ("baud", encode settings.rate),
    ("data_bits", encode settings.dataBits),
    ("parity", encode settings.parity),
    ("stop_bits", encode settings.stopBits),
    ("flow_control", encode settings.flowControl),
    ("hangup_on_close", encode settings.hangupOnClose)]
  decode? dialect datum := do
    let fields ← datum.fields? dialect 6
    return {
      rate := ← required dialect fields 0 "baud"
      dataBits := ← required dialect fields 1 "data_bits"
      parity := ← required dialect fields 2 "parity"
      stopBits := ← required dialect fields 3 "stop_bits"
      flowControl := ← required dialect fields 4 "flow_control"
      hangupOnClose := ← required dialect fields 5 "hangup_on_close" }

instance : Coded Hid.Usage where
  encode usage := .record [
    ("usage_page", encode usage.page),
    ("usage", encode usage.usage)]
  decode? dialect datum := do
    let fields ← datum.fields? dialect 2
    return {
      page := ← required dialect fields 0 "usage_page"
      usage := ← required dialect fields 1 "usage" }

end Coded

end Hotplug
