/-
`NetworkAdapterResolver::resolve`: from the name of an interface through the bus address that its driver
reports to the name that libpci has for the device there. Whatever the kernel and libpci answer, the
socket, the libpci context and the device are given back, each once.
-/
import TimeAgent.Agent.Watched
import TimeAgent.Lib.Hex
import TimeAgent.Lib.Scope

namespace TimeAgent

open CText CNum CHex Handles Scope

/-! ## The address -/

structure PciAddress where
  domain : Nat
  bus : Nat
  device : Nat
  function : Nat
  deriving DecidableEq

namespace PciAddress

/-- The parts are `unsigned int`. -/
structure InRange (a : PciAddress) : Prop where
  domain : a.domain < 2 ^ 32
  bus : a.bus < 2 ^ 32
  device : a.device < 2 ^ 32
  function : a.function < 2 ^ 32

/-- The address as a driver reports it, `%04x:%02x:%02x.%x`. -/
def text (a : PciAddress) : Str :=
  hexText 4 a.domain ++ ':' :: (hexText 2 a.bus ++ ':' :: (hexText 2 a.device ++ '.' :: hexText 1 a.function))

end PciAddress

/-- `sscanf` with `%x:%x:%x.%x`, all four of which must be found. -/
def scanPciAddress (s : Str) : Option PciAddress := do
  let (domain, s) ← scanHex s
  let s ← expect ':' s
  let (bus, s) ← scanHex s
  let s ← expect ':' s
  let (device, s) ← scanHex s
  let s ← expect '.' s
  let (function, _) ← scanHex s
  return { domain, bus, device, function }

/-- What was printed is read back. -/
theorem scanPciAddress_text {a : PciAddress} (ha : a.InRange) : scanPciAddress a.text = some a := by
  have hfunction := scanHex_hexText 1 ha.function (stops_nil _)
  rw [List.append_nil] at hfunction
  unfold scanPciAddress PciAddress.text
  rw [scanHex_hexText 4 ha.domain ((stops_cons _ _ _).2 rfl)]
  simp only [Option.bind_eq_bind, Option.bind_some, expect, if_true]
  rw [scanHex_hexText 2 ha.bus ((stops_cons _ _ _).2 rfl)]
  simp only [Option.bind_some, if_true]
  rw [scanHex_hexText 2 ha.device ((stops_cons _ _ _).2 rfl)]
  simp only [Option.bind_some, if_true]
  rw [hfunction]
  rfl

/-- An address is neither of the texts that mean that there is none. -/
theorem PciAddress.text_ne (a : PciAddress) : ¬(a.text = [] ∨ a.text = "N/A".toList) := by
  have hhead : ∀ c ∈ a.text.head?, isHexDigit c = true := by
    intro c hc
    unfold PciAddress.text at hc
    rw [List.head?_append_of_ne_nil _ (hexText_ne_nil 4 a.domain)] at hc
    exact (hexText_digit 4 a.domain c (List.mem_of_mem_head? hc)).1
  rintro (h | h)
  · unfold PciAddress.text at h
    exact hexText_ne_nil 4 a.domain (List.append_eq_nil_iff.1 h).1
  · rw [h] at hhead
    exact absurd (hhead 'N' rfl) (by decide)

/-! ## The machine -/

/-- What the resolver reads of a `pci_dev` behind `pci_fill_info` with `PCI_FILL_IDENT`, which is documented
to fill in the vendor and the device; the revision is whatever stands there then. -/
structure PciIdent where
  vendorId : Nat
  deviceId : Nat
  revId : Nat

/-- What the kernel and libpci answer during one call of `resolve`. -/
structure Bus where
  socket : Option Nat
  /-- `bus_info` of `ETHTOOL_GDRVINFO` for the interface of a request, `none` when the `ioctl` fails. -/
  drvinfo : Str → Option Str
  strerror : Str
  alloc : Option Nat
  getDev : PciAddress → Option Nat
  fillInfo : PciAddress → Option PciIdent
  lookupVendor : Nat → Str
  lookupDevice : Nat → Nat → Str

/-- What the process holds of the kernel and of libpci. -/
structure Resources where
  sockets : Table Nat Unit := {}
  accesses : Table Nat Unit := {}
  devices : Table Nat PciAddress := {}

namespace Resources

def openSocket (answer : Option Nat) (s : Resources) : Option Resources :=
  (s.sockets.opens () answer).map fun sockets => { s with sockets }

/-- `~FileDescriptor`: a descriptor that `socket` did not give is not closed. -/
def closeSocket (answer : Option Nat) (s : Resources) : Resources :=
  { s with sockets := s.sockets.closeAll answer.toList }

def pciAlloc (answer : Option Nat) (s : Resources) : Option Resources :=
  (s.accesses.opens () answer).map fun accesses => { s with accesses }

/-- The deleter of the `unique_ptr`, which a null pointer does not run. -/
def pciCleanup (answer : Option Nat) (s : Resources) : Resources :=
  { s with accesses := s.accesses.closeAll answer.toList }

def pciGetDev (address : PciAddress) (answer : Option Nat) (s : Resources) : Option Resources :=
  (s.devices.opens address answer).map fun devices => { s with devices }

def pciFreeDev (device : Nat) (s : Resources) : Resources := { s with devices := s.devices.closeAll [device] }

end Resources

/-! ## The resolver -/

namespace NetworkAdapterResolver

open Prog

/-- `ifr_name` holds fifteen characters of the name. -/
def ifrName (interfaceName : Str) : Str := (cstr interfaceName).take 15

def getBusInfo (m : Bus) (interfaceName : Str) : Prog Resources Str Str := do
  request (Resources.openSocket m.socket)
  destroying (Resources.closeSocket m.socket) <|
    if m.socket.isNone then throw ("socket() failed: ".toList ++ m.strerror)
    else
      match m.drvinfo (ifrName interfaceName) with
      | none => throw ("ioctl(SIOCETHTOOL) failed for '".toList ++ interfaceName ++ "': ".toList ++ m.strerror)
      | some info =>
        let busInfo := cstr info
        if busInfo = [] ∨ busInfo = "N/A".toList then
          throw ("bus-info is empty or unsupported for interface '".toList ++ interfaceName ++ "'".toList)
        else pure busInfo

def parsePciAddress (busInfo : Str) : Prog Resources Str PciAddress :=
  match scanPciAddress (cstr busInfo) with
  | none => throw ("failed to parse PCI address from bus-info '".toList ++ busInfo ++ "'".toList)
  | some address => pure address

/-- The name of a device: its vendor, what it is, and its revision in two hexadecimal digits. -/
def adapterText (m : Bus) (ident : PciIdent) : Str :=
  m.lookupVendor ident.vendorId ++ ' ' :: m.lookupDevice ident.vendorId ident.deviceId ++
    " (rev ".toList ++ hexText 2 ident.revId ++ ")".toList

def lookupAdapterName (m : Bus) (busInfo : Str) : Prog Resources Str Str := do
  let address ← parsePciAddress busInfo
  request (Resources.pciAlloc m.alloc)
  destroying (Resources.pciCleanup m.alloc) <|
    if m.alloc.isNone then throw "pci_alloc() failed".toList
    else do
      request (Resources.pciGetDev address (m.getDev address))
      match m.getDev address with
      | none => throw ("pci_get_dev() failed for '".toList ++ busInfo ++ "'".toList)
      | some device =>
        match m.fillInfo address with
        | none =>
          request fun s => some (s.pciFreeDev device)
          throw ("pci_fill_info() failed for '".toList ++ busInfo ++ "'".toList)
        | some ident =>
          let result := adapterText m ident
          request fun s => some (s.pciFreeDev device)
          pure result

/-- A failure is logged; the name is then empty. -/
def resolve (m : Bus) (interfaceName : Str) : Prog Resources Str Str :=
  tryCatch (do lookupAdapterName m (← getBusInfo m interfaceName)) fun _ => pure []

end NetworkAdapterResolver

/-! ## What a call is worth -/

namespace Bus

open NetworkAdapterResolver

/-- The bus address of an interface, as its driver reports it. -/
def busInfo (m : Bus) (interfaceName : Str) : Option Str :=
  if m.socket.isNone then none
  else (m.drvinfo (ifrName interfaceName)).bind fun info =>
    if cstr info = [] ∨ cstr info = "N/A".toList then none else some (cstr info)

/-- The device at an address. -/
def device (m : Bus) (address : PciAddress) : Option PciIdent :=
  if m.alloc.isNone ∨ (m.getDev address).isNone then none else m.fillInfo address

/-- The name for what the driver reports. -/
def nameAt (m : Bus) (busInfo : Str) : Option Str :=
  (scanPciAddress (cstr busInfo)).bind fun address => (m.device address).map (adapterText m)

def adapterName (m : Bus) (interfaceName : Str) : Str := ((m.busInfo interfaceName).bind m.nameAt).getD []

end Bus

/-! ## The handles -/

/-- What the process holds before a call and after it. -/
structure Held where
  sockets : List (Nat × Unit) := []
  accesses : List (Nat × Unit) := []
  devices : List (Nat × PciAddress) := []

namespace Held

variable (held : Held) (answer : Option Nat)

def withSocket : Held := { held with sockets := held.sockets ++ (answer.map fun fd => (fd, ())).toList }

def withAccess : Held := { held with accesses := held.accesses ++ (answer.map fun access => (access, ())).toList }

def withDevice (address : PciAddress) : Held :=
  { held with devices := held.devices ++ (answer.map fun device => (device, address)).toList }

theorem withDevice_none (address : PciAddress) : held.withDevice none address = held := by simp [withDevice]

end Held

structure Resources.Holds (s : Resources) (held : Held) : Prop where
  sockets : s.sockets.Holds held.sockets
  accesses : s.accesses.Holds held.accesses
  devices : s.devices.Holds held.devices

/-- The kernel and libpci do not answer with what the process still holds. -/
structure Bus.Fresh (m : Bus) (held : Held) : Prop where
  socket : ∀ fd ∈ m.socket, fd ∉ held.sockets.map Prod.fst
  alloc : ∀ access ∈ m.alloc, access ∉ held.accesses.map Prod.fst
  getDev : ∀ address, ∀ device ∈ m.getDev address, device ∉ held.devices.map Prod.fst

namespace NetworkAdapterResolver

open Prog

variable {held : Held} {m : Bus}

/-- The address of an interface, and the socket as it was. -/
theorem getBusInfo_restores (hm : m.Fresh held) (interfaceName : Str) :
    Restores (Resources.Holds · held) (getBusInfo m interfaceName) (fun info => m.busInfo interfaceName = some info)
      (fun _ => m.busInfo interfaceName = none) := by
  unfold getBusInfo Bus.busInfo
  apply Restores.scope (R := (Resources.Holds · (held.withSocket m.socket)))
  · intro s hs
    obtain ⟨sockets, hopen, hsockets⟩ := hs.sockets.exists_opens hm.socket ()
    refine ⟨{ s with sockets }, ?_, ⟨hsockets, hs.accesses, hs.devices⟩⟩
    unfold Resources.openSocket
    rw [hopen, Option.map_some]
  · split
    · exact restores_throw rfl
    · split
      · rename_i hinfo
        exact restores_throw (by rw [hinfo, Option.bind_none])
      · rename_i info hinfo
        rw [hinfo, Option.bind_some]
        dsimp only
        split
        · exact restores_throw rfl
        · exact restores_pure rfl
  · intro s hs
    exact ⟨hs.sockets.closeAll_answer, hs.accesses, hs.devices⟩

theorem spec_pciGetDev {E : Str → Resources → Prop} {answer : Option Nat} {address : PciAddress}
    (h : ∀ device ∈ answer, device ∉ held.devices.map Prod.fst) :
    Spec (Resources.Holds · held) (request (Resources.pciGetDev address answer))
      (fun _ s => s.Holds (held.withDevice answer address)) E := by
  apply spec_request
  intro s hs
  obtain ⟨devices, hopen, hdevices⟩ := hs.devices.exists_opens h address
  refine ⟨{ s with devices }, ?_, ⟨hs.sockets, hs.accesses, hdevices⟩⟩
  unfold Resources.pciGetDev
  rw [hopen, Option.map_some]

theorem spec_pciFreeDev {E : Str → Resources → Prop} {device : Nat} {address : PciAddress} :
    Spec (Resources.Holds · (held.withDevice (some device) address))
      (request fun s => some (s.pciFreeDev device)) (fun _ s => s.Holds held) E := by
  apply spec_request
  intro s hs
  exact ⟨s.pciFreeDev device, rfl, ⟨hs.sockets, hs.accesses, hs.devices.closeAll_answer⟩⟩

theorem parsePciAddress_restores {P : Resources → Prop} (busInfo : Str) :
    Restores P (parsePciAddress busInfo) (fun address => scanPciAddress (cstr busInfo) = some address)
      (fun _ => m.nameAt busInfo = none) := by
  unfold parsePciAddress Bus.nameAt
  split
  · rename_i hscan
    exact restores_throw (by rw [hscan, Option.bind_none])
  · rename_i address hscan
    exact restores_pure hscan

/-- The name of the device, and the libpci context and the device as they were. -/
theorem lookupAdapterName_restores (hm : m.Fresh held) (busInfo : Str) :
    Restores (Resources.Holds · held) (lookupAdapterName m busInfo) (fun name => m.nameAt busInfo = some name)
      (fun _ => m.nameAt busInfo = none) := by
  unfold lookupAdapterName
  refine (parsePciAddress_restores busInfo).bind fun address haddress => ?_
  have hname : m.nameAt busInfo = (m.device address).map (adapterText m) := by
    unfold Bus.nameAt
    rw [haddress, Option.bind_some]
  apply Restores.scope (R := (Resources.Holds · (held.withAccess m.alloc)))
  · intro s hs
    obtain ⟨accesses, hopen, haccesses⟩ := hs.accesses.exists_opens hm.alloc ()
    refine ⟨{ s with accesses }, ?_, ⟨hs.sockets, haccesses, hs.devices⟩⟩
    unfold Resources.pciAlloc
    rw [hopen, Option.map_some]
  · split
    · rename_i hnone
      exact restores_throw (by rw [hname, Bus.device, if_pos (.inl hnone), Option.map_none])
    · rename_i halloc
      have hfree : ∀ device ∈ m.getDev address, device ∉ (held.withAccess m.alloc).devices.map Prod.fst :=
        hm.getDev address
      refine (spec_pciGetDev hfree).bind fun _ => ?_
      cases hdev : m.getDev address with
      | none =>
        rw [Held.withDevice_none]
        exact restores_throw (by rw [hname, Bus.device, hdev, if_pos (.inr rfl), Option.map_none])
      | some device =>
        have hdevice : m.device address = m.fillInfo address := by
          unfold Bus.device
          rw [hdev, if_neg (by simpa using halloc)]
        rw [hdevice] at hname
        dsimp only
        cases hfill : m.fillInfo address with
        | none =>
          rw [hfill, Option.map_none] at hname
          exact spec_pciFreeDev.bind fun _ => restores_throw hname
        | some ident =>
          rw [hfill, Option.map_some] at hname
          exact spec_pciFreeDev.bind fun _ => restores_pure hname
  · intro s hs
    exact ⟨hs.sockets, hs.accesses.closeAll_answer, hs.devices⟩

/-- The name, or an empty one after a failure, and everything as it was. -/
theorem resolve_restores (hm : m.Fresh held) (interfaceName : Str) :
    Restores (Resources.Holds · held) (resolve m interfaceName) (· = m.adapterName interfaceName) (fun _ => False) := by
  unfold resolve Bus.adapterName
  apply Restores.handled (Z := fun _ => (m.busInfo interfaceName).bind m.nameAt = none)
  · have hbus : Restores (Resources.Holds · held) (getBusInfo m interfaceName)
        (fun info => m.busInfo interfaceName = some info)
        (fun _ => (m.busInfo interfaceName).bind m.nameAt = none) :=
      (getBusInfo_restores hm interfaceName).imp (fun _ h => h) fun _ h => by rw [h, Option.bind_none]
    refine hbus.bind fun info hinfo => ?_
    rw [hinfo, Option.bind_some]
    exact (lookupAdapterName_restores hm info).imp (fun _ h => by rw [h, Option.getD_some]) fun _ h => h
  · intro e he
    exact restores_pure (by rw [he, Option.getD_none])

/-- Whatever the kernel and libpci answer, any number of calls return, each with what its own answers are
worth, and afterwards the process holds what it held before: nothing is leaked and nothing is closed twice. -/
theorem resolves_of_run {calls : List (Bus × Str)} (hcalls : ∀ c ∈ calls, c.1.Fresh held) {s : Resources}
    (hs : s.Holds held) :
    ∃ s', calls.mapM (fun c => resolve c.1 c.2) s = some (.ok (calls.map fun c => c.1.adapterName c.2), s') ∧
      s'.Holds held := by
  have hrun : Restores (Resources.Holds · held) (calls.mapM fun c => resolve c.1 c.2)
      (· = calls.map fun c => c.1.adapterName c.2) (fun _ => False) :=
    restores_mapM fun c hc => resolve_restores (hcalls c hc) c.2
  obtain ⟨names, s', hrun, rfl, hs'⟩ := hrun.returns hs
  exact ⟨s', hrun, hs'⟩

/-- An Ethernet device on bus 3 whose vendor has a name. -/
def adapterBus : Bus where
  socket := some 4
  drvinfo := fun name => if name = "eth0".toList then some "0000:03:00.1\x00".toList else none
  strerror := "No such device".toList
  alloc := some 0
  getDev := fun _ => some 0
  fillInfo := fun address => if address = ⟨0, 3, 0, 1⟩ then some ⟨0x8086, 0x10fb, 1⟩ else none
  lookupVendor := fun _ => "Intel Corporation".toList
  lookupDevice := fun _ _ => "82599ES 10-Gigabit SFI/SFP+".toList

theorem adapterBus_fresh : adapterBus.Fresh { sockets := [(3, ())] } := by
  refine ⟨fun fd hfd => ?_, fun access _ => List.not_mem_nil, fun address device _ => List.not_mem_nil⟩
  obtain rfl : 4 = fd := Option.some.inj hfd
  decide

/-- One interface has a name and one has no driver; socket 3 is another's and stays open. -/
theorem resolves_of_run_eth0 :
    ∃ s', [(adapterBus, "eth0".toList), (adapterBus, "lo".toList)].mapM (fun c => resolve c.1 c.2)
        { sockets := Table.add {} 3 () } =
          some (.ok ["Intel Corporation 82599ES 10-Gigabit SFI/SFP+ (rev 01)".toList, []], s') ∧
      s'.Holds { sockets := [(3, ())] } := by
  have hnames : [(adapterBus, "eth0".toList), (adapterBus, "lo".toList)].map (fun c => c.1.adapterName c.2) =
      ["Intel Corporation 82599ES 10-Gigabit SFI/SFP+ (rev 01)".toList, []] := by decide +kernel
  rw [← hnames]
  refine resolves_of_run (fun c hc => ?_)
    ⟨Table.holds_empty.add rfl, Table.holds_empty, Table.holds_empty⟩
  obtain rfl | rfl : c = (adapterBus, "eth0".toList) ∨ c = (adapterBus, "lo".toList) := by simpa using hc
  · exact adapterBus_fresh
  · exact adapterBus_fresh

/-- An interface whose driver reports an address gets the name of the device there. -/
theorem adapterName_of_address {interfaceName : Str} {a : PciAddress} (ha : a.InRange) (hsocket : m.socket ≠ none)
    (hdriver : (m.drvinfo (ifrName interfaceName)).map cstr = some a.text) :
    m.adapterName interfaceName = ((m.device a).map (adapterText m)).getD [] := by
  obtain ⟨info, hinfo, htext⟩ := Option.map_eq_some_iff.1 hdriver
  have hcstr : cstr a.text = a.text := by
    rw [← htext]
    unfold cstr
    exact takeWhile_all fun c hc => List.mem_takeWhile_imp (p := (· ≠ '\x00')) hc
  have hbus : m.busInfo interfaceName = some a.text := by
    unfold Bus.busInfo
    rw [if_neg (by simpa using hsocket), hinfo, Option.bind_some, htext, if_neg a.text_ne]
  unfold Bus.adapterName Bus.nameAt
  rw [hbus, Option.bind_some, hcstr, scanPciAddress_text ha, Option.bind_some]

end NetworkAdapterResolver

/-! ## The port events -/

open NetworkAdapterResolver

/-- The record with the names that libpci has for the devices at the addresses of the interfaces. -/
def Ptp4lRecord.named (r : Ptp4lRecord) (m : Bus) (address : Str → PciAddress) : Ptp4lRecord :=
  let resolve := fun name => ((m.device (address name)).map (adapterText m)).getD []
  { r with machine := { r.machine with resolve } }

/-- Of the resolver a record uses no more than the name for the interface it watches. -/
theorem Ptp4lRecord.call_named {config : AgentConfig} {r : Ptp4lRecord} {m : Bus} {address : Str → PciAddress}
    (h : ∀ name ∈ r.line.watched, r.machine.resolve name = (r.named m address).machine.resolve name) :
    r.call config = (r.named m address).call config := by
  obtain ⟨tsUsec, unit, line, machine⟩ := r
  cases line with
  | port l =>
    by_cases hpath : '/' ∈ l.name.text
    · simp [call, named, hpath]
    · have hname := h l.name.text (if_neg hpath)
      dsimp only at hname
      simp [call, hpath, hname, named]
  | offset l => rfl
  | rms l => rfl
  | foreignMaster l => rfl
  | bestMaster l => rfl
  | localClock l => rfl

/-- Over any run of canonical lines, when `resolve` gives the machine its names and the driver of each
interface reports an address, every port event carries the name of the device at that address. -/
theorem adapters_of_run (config : AgentConfig) {records : List (Ptp4lRecord × Bus)} {held : Held}
    {address : Str → PciAddress}
    (hresolve : ∀ r ∈ records, ∀ name ∈ r.1.line.watched, r.2.Fresh held ∧
      ∃ s s', s.Holds held ∧ resolve r.2 name s = some (.ok (r.1.machine.resolve name), s'))
    (hdriver : ∀ r ∈ records, ∀ name ∈ r.1.line.watched, (address name).InRange ∧ r.2.socket ≠ none ∧
      (r.2.drvinfo (ifrName name)).map cstr = some (address name).text) (s : Effects) :
    ((ptp4lHandler config).run s (records.map fun r => (r.1.machine, r.1.event))).calls =
      s.calls ++ records.filterMap fun r => (r.1.named r.2 address).call config := by
  have hcall : ∀ r ∈ records, r.1.call config = (r.1.named r.2 address).call config := by
    intro r hr
    apply Ptp4lRecord.call_named
    intro name hname
    obtain ⟨hfresh, s, s', hs, hrun⟩ := hresolve r hr name hname
    obtain ⟨ha, hsocket, haddress⟩ := hdriver r hr name hname
    obtain ⟨found, s'', hrun', hfound, -⟩ := (resolve_restores hfresh name).returns hs
    rw [hrun] at hrun'
    cases hrun'
    rw [hfound, adapterName_of_address ha hsocket haddress]
    rfl
  have hevents : records.map (fun r => (r.1.machine, r.1.event)) =
      (records.map Prod.fst).map fun r => (r.machine, r.event) := by
    rw [List.map_map]
    rfl
  rw [hevents, ptp4lHandler_run_state]
  dsimp only
  rw [List.filterMap_map]
  exact congrArg (s.calls ++ ·) (List.filterMap_congr hcall)

/-- The record of `eth0` on the bus of the example above. -/
def eth0OnBus : Ptp4lRecord × Bus :=
  ({ eth0Record with machine := { eth0Record.machine with resolve := adapterBus.adapterName } }, adapterBus)

/-- The port event of `eth0` names the device at 0000:03:00.1. -/
theorem adapters_of_run_eth0 :
    ((ptp4lHandler { node := "node".toList, configPtpTopology := {} }).run {}
        ([eth0OnBus].map fun r => (r.1.machine, r.1.event))).calls =
      [.sendPtp4lPortEvent
        { unit := "ptp4l".toList, timestampUs := 5000000, portNumber := 1, portName := "eth0".toList,
          adapterName := "Intel Corporation 82599ES 10-Gigabit SFI/SFP+ (rev 01)".toList,
          fromState := "INITIALIZING".toList, toState := "LISTENING".toList, trigger := "INIT_COMPLETE".toList }
        "node".toList] := by
  have hresolve : ∀ r ∈ [eth0OnBus], ∀ name ∈ r.1.line.watched, r.2.Fresh { sockets := [(3, ())] } ∧
      ∃ s s', s.Holds { sockets := [(3, ())] } ∧ resolve r.2 name s = some (.ok (r.1.machine.resolve name), s') := by
    rw [List.forall_mem_singleton]
    intro name _
    have hs : ({ sockets := Table.add {} 3 () } : Resources).Holds { sockets := [(3, ())] } :=
      ⟨Table.holds_empty.add rfl, Table.holds_empty, Table.holds_empty⟩
    obtain ⟨found, s', hrun, rfl, -⟩ := (resolve_restores adapterBus_fresh name).returns hs
    exact ⟨adapterBus_fresh, _, s', hs, hrun⟩
  have hdriver : ∀ r ∈ [eth0OnBus], ∀ name ∈ r.1.line.watched, (⟨0, 3, 0, 1⟩ : PciAddress).InRange ∧
      r.2.socket ≠ none ∧ (r.2.drvinfo (ifrName name)).map cstr = some (PciAddress.text ⟨0, 3, 0, 1⟩) := by
    rw [List.forall_mem_singleton]
    intro name hname
    obtain rfl : "eth0".toList = name := Option.some.inj hname
    refine ⟨⟨by decide, by decide, by decide, by decide⟩, Option.some_ne_none 4, ?_⟩
    decide +kernel
  refine (adapters_of_run { node := "node".toList, configPtpTopology := {} } hresolve hdriver {}).trans ?_
  decide +kernel

end TimeAgent
