import Anbox.Foundation.Interruptible
import Anbox.Foundation.Runs
import Mathlib.Logic.Function.Basic

/-!
# The LXC container

`LxcContainer` builds the configuration of the Android container with one
`set_config_item` after another and then starts it.  The handle that LXC gives
out, and with it the configuration, is kept for later starts.  LXC appends to
items that are lists and replaces all others.

A start may fail at any point.  What the host answers during a start is an
argument: which items LXC accepts, which files and devices exist, in which
order an `unordered_map` is traversed and which of the other steps fail.
-/

namespace Anbox.Lxc.LxcContainer

open Anbox.Foundation.Interruptible
open Anbox.Foundation.Runs

/-! ## Configuration items -/

/-- Macros that the sources are compiled with. -/
structure Build where
  lxc2Support : Bool
  snapConfinement : Bool

/-- Items whose names depend on the version of LXC. -/
structure ConfigKeys where
  idmap : String
  netType : String
  netFlags : String
  netLink : String
  ptyMax : String
  ttyMax : String
  utsName : String
  ttyDir : String
  initCmd : String
  rootfsPath : String
  logLevel : String
  logFile : String
  apparmorProfile : String

def lxc2ConfigKeys : ConfigKeys :=
  { idmap := "lxc.id_map"
    netType := "lxc.network.type"
    netFlags := "lxc.network.flags"
    netLink := "lxc.network.link"
    ptyMax := "lxc.pts"
    ttyMax := "lxc.tty"
    utsName := "lxc.utsname"
    ttyDir := "lxc.devttydir"
    initCmd := "lxc.init_cmd"
    rootfsPath := "lxc.rootfs"
    logLevel := "lxc.loglevel"
    logFile := "lxc.logfile"
    apparmorProfile := "lxc.aa_profile" }

def lxcConfigKeys : ConfigKeys :=
  { idmap := "lxc.idmap"
    netType := "lxc.net.0.type"
    netFlags := "lxc.net.0.flags"
    netLink := "lxc.net.0.link"
    ptyMax := "lxc.pty.max"
    ttyMax := "lxc.tty.max"
    utsName := "lxc.uts.name"
    ttyDir := "lxc.tty.dir"
    initCmd := "lxc.init.cmd"
    rootfsPath := "lxc.rootfs.path"
    logLevel := "lxc.log.level"
    logFile := "lxc.log.file"
    apparmorProfile := "lxc.apparmor.profile" }

def Build.keys (build : Build) : ConfigKeys :=
  if build.lxc2Support then lxc2ConfigKeys else lxcConfigKeys

/-- A name and a value. -/
abbrev ConfigItem := String × String

/-- The values of each item. -/
abbrev Config := String → List String

def Config.empty : Config := fun _ => []

/-- The items that are lists. -/
def listValued (build : Build) (key : String) : Bool :=
  key = "lxc.mount.entry" || key = build.keys.idmap ||
    key = "lxc.environment" || key = "lxc.cap.drop"

def setItem (build : Build) (config : Config) (item : ConfigItem) : Config :=
  Function.update config item.1
    (if listValued build item.1 then config item.1 ++ [item.2]
      else [item.2])

/-! ## The host -/

/-- The paths of `SystemConfiguration` that a start uses. -/
structure SystemConfiguration where
  rootfsDir : String
  combinedRootfsDir : String
  logDir : String
  /-- The node of a device in the directory of devices. -/
  deviceNode : String → String
  /-- The file with additional properties. -/
  defaultProp : String

structure DeviceSpecification where
  permission : UInt32
  oldDeviceName : String

structure Configuration where
  bindMounts : List (String × String)
  devices : List (String × DeviceSpecification)
  extraProperties : List String

/-- Steps of a start, other than setting items, that may fail. -/
inductive Step where
  | ipConfiguration
  | devicesDirectory
  | stat (path : String)
  | mknod (path : String) (permission : UInt32)
  | chown (path : String)
  | chmod (path : String) (permission : UInt32)
  | readDefaultProp
  | openDefaultProp
deriving DecidableEq

/-- What the host answers during one start. -/
structure Environment where
  /-- The user that runs the process. -/
  uid : Nat
  /-- `lxc_container_new` returns a handle. -/
  creates : Bool
  /-- `lxc_container::stop` succeeds. -/
  stops : Bool
  /-- `lxc_container::set_config_item` succeeds. -/
  accepts : String → String → Bool
  /-- The variable `SNAP` is set. -/
  snap : Bool
  /-- The bridge `anbox0` exists. -/
  bridge : Bool
  binderfs : Bool
  /-- The path of the binder device that was allocated. -/
  binderDevice : Option String
  isDirectory : String → Bool
  /-- The text of the exception if the step fails. -/
  fails : Step → Option String
  savesConfig : Bool
  starts : Bool
  mountOrder : List (String × String) → List (String × String)
  mountOrder_perm : ∀ mounts, (mountOrder mounts).Perm mounts
  deviceOrder :
    List (String × DeviceSpecification) →
      List (String × DeviceSpecification)
  deviceOrder_perm : ∀ devices, (deviceOrder devices).Perm devices

/-- What does not change over the life of a container object. -/
structure Settings where
  build : Build
  system : SystemConfiguration
  privileged : Bool
  rootfsOverlay : Bool
  uid : Nat
  gid : Nat

def Settings.rootfsPath (settings : Settings) : String :=
  if settings.rootfsOverlay then settings.system.combinedRootfsDir
  else settings.system.rootfsDir

/-! ## Building the configuration -/

abbrev Program := EStateM String Config PUnit

section

variable (settings : Settings) (environment : Environment)

def setConfigItem (key value : String) : Program := fun config =>
  if environment.accepts key value then
    .ok () (setItem settings.build config (key, value))
  else .error ("Failed to set config item " ++ key) config

/-- Several calls of `set_config_item` in a row. -/
def setConfigItems (items : List ConfigItem) : Program :=
  items.forM fun item => setConfigItem settings environment item.1 item.2

/-- A step that has no effect on the configuration. -/
def take (step : Step) (message : String → String) : Program := fun config =>
  match environment.fails step with
  | none => .ok () config
  | some error => .error (message error) config

def unprivilegedUid : Nat := 100000

def androidSystemUid : Nat := 1000

def getIdMap (uid gid : Nat) : List String :=
  let baseId := unprivilegedUid
  let maxId := 100000
  ["u 0 " ++ baseId.repr ++ " " ++ (androidSystemUid - 1).repr,
    "g 0 " ++ baseId.repr ++ " " ++ (androidSystemUid - 1).repr,
    "u " ++ androidSystemUid.repr ++ " " ++ uid.repr ++ " 1",
    "g " ++ androidSystemUid.repr ++ " " ++ gid.repr ++ " 1",
    "u " ++ (androidSystemUid + 1).repr ++ " " ++
      (baseId + androidSystemUid + 1).repr ++ " " ++
      (maxId - androidSystemUid).repr,
    "g " ++ (androidSystemUid + 1).repr ++ " " ++
      (baseId + androidSystemUid + 1).repr ++ " " ++
      (maxId - androidSystemUid).repr]

def setupIdMap : Program :=
  (getIdMap settings.uid settings.gid).forM fun value =>
    setConfigItem settings environment settings.build.keys.idmap value

def setupNetwork : Program :=
  if environment.bridge then do
    setConfigItems settings environment
      [(settings.build.keys.netType, "veth"),
        (settings.build.keys.netFlags, "up"),
        (settings.build.keys.netLink, "anbox0")]
    take environment .ipConfiguration id
  else pure ()

def addDevice (device : String) (spec : DeviceSpecification) : Program := do
  let oldDeviceName :=
    if spec.oldDeviceName.isEmpty then device else spec.oldDeviceName
  take environment (.stat oldDeviceName) fun _ =>
    "Failed to retrieve information about device " ++ device
  let newDevicePath := settings.system.deviceNode device
  take environment (.mknod newDevicePath spec.permission) fun error =>
    "Failed to create node for device " ++ device ++ ": " ++ error
  take environment (.chown newDevicePath) fun error =>
    "Failed to change ownership of new node for " ++ device ++ ": " ++ error
  take environment (.chmod newDevicePath spec.permission) fun error =>
    "Failed to change mode of new node for " ++ device ++ ": " ++ error
  let targetPath :=
    if device.startsWith "/" then (device.drop 1).toString else device
  setConfigItem settings environment "lxc.mount.entry"
    (newDevicePath ++ " " ++ targetPath ++
      " none bind,create=file,optional 0 0")

def addBindMount (source target : String) : Program :=
  let createType := if environment.isDirectory source then "dir" else "file"
  let targetPath :=
    if target.startsWith "/" then target else "/" ++ target
  setConfigItem settings environment "lxc.mount.entry"
    (source ++ " " ++ (settings.rootfsPath ++ targetPath) ++
      " none bind,create=" ++ createType ++ ",optional 0 0")

/-- `unordered_map::insert` keeps an entry that is there already. -/
def insertNew {Value : Type} (entries : List (String × Value))
    (key : String) (value : Value) : List (String × Value) :=
  if entries.any (·.1 = key) then entries else entries ++ [(key, value)]

/-- The devices that every container gets. -/
def additionalDevices : List (String × DeviceSpecification) :=
  [("/dev/console", ⟨0o600, ""⟩), ("/dev/full", ⟨0o666, ""⟩),
    ("/dev/null", ⟨0o666, ""⟩), ("/dev/random", ⟨0o666, ""⟩),
    ("/dev/tty", ⟨0o666, ""⟩), ("/dev/urandom", ⟨0o666, ""⟩),
    ("/dev/zero", ⟨0o666, ""⟩), ("/dev/tun", ⟨0o660, "/dev/net/tun"⟩),
    ("/dev/ashmem", ⟨0o666, ""⟩)]

def addExtraProperties (extraProperties : List String) : Program :=
  if 0 < extraProperties.length then do
    take environment .readDefaultProp id
    take environment .openDefaultProp fun _ =>
      "Failed to open new default properties file"
    setConfigItem settings environment "lxc.mount.entry"
      (settings.system.defaultProp ++ " " ++ settings.rootfsPath ++
        "/default.prop none bind,optional,ro 0 0")
  else pure ()

/-- Everything from the bind mounts to the additional properties. -/
def addMounts (bindMounts : List (String × String))
    (devices : List (String × DeviceSpecification))
    (extraProperties : List String) : Program := do
  (environment.mountOrder bindMounts).forM fun mount =>
    addBindMount settings environment mount.1 mount.2
  let devices := additionalDevices.foldl
    (fun devices device => insertNew devices device.1 device.2) devices
  take environment .devicesDirectory id
  (environment.deviceOrder devices).forM fun device =>
    addDevice settings environment device.1 device.2
  addExtraProperties settings environment extraProperties

/-- The items that are set before the first one that is a list. -/
def leadingItems : List ConfigItem :=
  [("lxc.mount.auto", "proc:mixed sys:mixed cgroup:mixed"),
    ("lxc.autodev", "1"), (settings.build.keys.ptyMax, "1024"),
    (settings.build.keys.ttyMax, "0"),
    (settings.build.keys.utsName, "anbox"),
    ("lxc.group.devices.deny", ""), ("lxc.group.devices.allow", ""),
    (settings.build.keys.ttyDir, "")]

def environmentItem : ConfigItem :=
  ("lxc.environment", "PATH=/system/bin:/system/sbin:/system/xbin")

/-- The other items that do not depend on the network or the mounts. -/
def generalItems : List ConfigItem :=
  [(settings.build.keys.initCmd, "/anbox-init.sh"),
    ("lxc.cap.drop", "wake_alarm")] ++
    (if settings.build.snapConfinement && environment.snap then
      [("lxc.namespace.keep", "cgroup")] else []) ++
    [(settings.build.keys.rootfsPath, settings.rootfsPath),
      (settings.build.keys.logLevel, "0"),
      (settings.build.keys.logFile,
        settings.system.logDir ++ "/container.log")] ++
    if settings.build.lxc2Support then []
    else
      [("lxc.console.logfile", settings.system.logDir ++ "/console.log"),
        ("lxc.console.rotate", "1")]

def apparmorItem : ConfigItem :=
  if settings.build.snapConfinement then
    ("lxc.apparmor.profile", "snap.anbox.container-manager//container")
  else (settings.build.keys.apparmorProfile, "unconfined")

/-- Only a container without privileges gets an id map. -/
def mapIds : Program :=
  if settings.privileged then pure () else setupIdMap settings environment

/-- The binder device is a bind mount with binderfs and a device without. -/
def addBinderAndMounts (configuration : Configuration) : Program :=
  if environment.binderfs then
    match environment.binderDevice with
    | none =>
        throw "Failed to allocate necessary binder devices"
    | some path =>
        addMounts settings environment
          (insertNew configuration.bindMounts path "/dev/binder")
          configuration.devices configuration.extraProperties
  else
    addMounts settings environment configuration.bindMounts
      (insertNew configuration.devices "/dev/binder" ⟨0o666, ""⟩)
      configuration.extraProperties

/-- The part of `start` behind the first items, up to `save_config`. -/
def configureRest (configuration : Configuration) : Program := do
  setConfigItems settings environment (generalItems settings environment)
  setupNetwork settings environment
  setConfigItems settings environment [apparmorItem settings]
  mapIds settings environment
  addBinderAndMounts settings environment configuration

/-- The part of `start` that sets items, up to `save_config`. -/
def configure (configuration : Configuration) : Program := do
  setConfigItems settings environment (leadingItems settings)
  setConfigItems settings environment [environmentItem]
  configureRest settings environment configuration

end

/-! ## Starting and stopping -/

/-- `Container::State`. -/
inductive State where
  | inactive
  | running
deriving DecidableEq, Repr

/-- The members of `LxcContainer` that change, and what LXC knows. -/
structure Container where
  state : State
  /-- The configuration of the handle; `none` if there is no handle. -/
  config : Option Config
  /-- LXC runs the container. -/
  lxcRunning : Bool

/-- LXC may still run a container of an earlier process. -/
def Container.initial (stillRunning : Bool) : Container :=
  ⟨.inactive, none, stillRunning⟩

/-- The configuration of the handle that a start uses. -/
def openHandle (environment : Environment) (container : Container) :
    Option Config :=
  match container.config with
  | some config => some config
  | none => if environment.creates then some Config.empty else none

def start (settings : Settings) (environment : Environment)
    (configuration : Configuration) (container : Container) :
    Except String PUnit × Container :=
  if environment.uid ≠ 0 then
    (.error "You have to start the container as root", container)
  else
    match openHandle environment container with
    | none => (.error "Failed to create LXC container instance", container)
    | some config =>
        -- A container that is still running is stopped first.
        let lxcRunning := container.lxcRunning && !environment.stops
        match configure settings environment configuration config with
        | .error error next =>
            (.error error,
              { container with config := some next, lxcRunning })
        | .ok _ next =>
            let saved :=
              { container with config := some next, lxcRunning }
            if !environment.savesConfig then
              (.error "Failed to save container configuration", saved)
            else if !environment.starts then
              (.error "Failed to start container", saved)
            else
              (.ok (), { saved with state := .running, lxcRunning := true })

def stop (succeeds : Bool) (container : Container) :
    Except String PUnit × Container :=
  if container.config.isNone || !container.lxcRunning then
    (.ok (), container)
  else if !succeeds then (.error "Failed to stop container", container)
  else
    (.ok (), { container with state := .inactive, lxcRunning := false })

/-- The configuration that is in force when a start reaches `save_config`. -/
def configAtSave (settings : Settings) (environment : Environment)
    (configuration : Configuration) (container : Container) :
    Option Config :=
  if environment.uid ≠ 0 then none
  else
    match openHandle environment container with
    | none => none
    | some config =>
        match configure settings environment configuration config with
        | .error _ _ => none
        | .ok _ next => some next

/-- What happens to a container object. -/
inductive Call where
  | start (environment : Environment) (configuration : Configuration)
  | stop (succeeds : Bool)
  /-- The container exits by itself. -/
  | exits

def step (settings : Settings) (container : Container) : Call → Container
  | .start environment configuration =>
      (start settings environment configuration container).2
  | .stop succeeds => (stop succeeds container).2
  | .exits => { container with lxcRunning := false }

def after (settings : Settings) (stillRunning : Bool)
    (history : List Call) : Container :=
  runFrom (step settings) (Container.initial stillRunning) history

/-! ## A host on which a start succeeds -/

def plainSettings : Settings :=
  { build := { lxc2Support := false, snapConfinement := false }
    system :=
      { rootfsDir := "/var/lib/anbox/rootfs"
        combinedRootfsDir := "/var/lib/anbox/combined-rootfs"
        logDir := "/var/lib/anbox/logs"
        deviceNode := fun device => "/var/lib/anbox/devices" ++ device
        defaultProp := "/var/lib/anbox/state/default.prop" }
    privileged := false
    rootfsOverlay := false
    uid := 100000
    gid := 100000 }

def plainEnvironment : Environment :=
  { uid := 0
    creates := true
    stops := true
    accepts := fun _ _ => true
    snap := false
    bridge := false
    binderfs := false
    binderDevice := none
    isDirectory := fun _ => true
    fails := fun _ => none
    savesConfig := true
    starts := true
    mountOrder := id
    mountOrder_perm := List.Perm.refl
    deviceOrder := id
    deviceOrder_perm := List.Perm.refl }

/-! ## Items of a configuration -/

section Items

variable {build : Build} {config : Config} {key : String}

/-- A list grows by the values that are set. -/
theorem foldl_setItem_of_listValued (isList : listValued build key = true)
    (items : List ConfigItem) :
    items.foldl (setItem build) config key =
      config key ++ (items.filter (·.1 = key)).map Prod.snd := by
  induction items generalizing config with
  | nil => simp
  | cons item items inductionHypothesis =>
      rw [List.foldl_cons, inductionHypothesis]
      by_cases same : item.1 = key
      · subst same
        simp [setItem, isList]
      · simp [setItem, same, Ne.symm same]

/-- An item that is no list has the value that was set last. -/
theorem foldl_setItem_congr (isScalar : listValued build key = false)
    {other : Config} {items : List ConfigItem}
    (overwritten : config key = other key ∨ ∃ item ∈ items, item.1 = key) :
    items.foldl (setItem build) config key =
      items.foldl (setItem build) other key := by
  induction items generalizing config other with
  | nil =>
      rcases overwritten with same | ⟨item, member, -⟩
      · exact same
      · cases member
  | cons item items inductionHypothesis =>
      rw [List.foldl_cons, List.foldl_cons]
      apply inductionHypothesis
      by_cases now : item.1 = key
      · subst now
        left
        simp [setItem, isScalar]
      · rcases overwritten with same | ⟨later, member, isKey⟩
        · left
          simpa [setItem, Ne.symm now] using same
        · right
          rcases List.mem_cons.mp member with rfl | member
          · exact absurd isKey now
          · exact ⟨later, member, isKey⟩

/-- Items that were not set are as before. -/
theorem foldl_setItem_of_notMem {items : List ConfigItem}
    (absent : ∀ item ∈ items, item.1 ≠ key) :
    items.foldl (setItem build) config key = config key := by
  induction items generalizing config with
  | nil => rfl
  | cons item items inductionHypothesis =>
      rw [List.foldl_cons, inductionHypothesis fun later member =>
        absent later (List.mem_cons_of_mem item member)]
      exact Function.update_of_ne
        (absent item List.mem_cons_self).symm _ _

end Items

/-! ## What a start writes -/

section Writes

variable (settings : Settings) (environment : Environment)

/-- LXC accepts the item. -/
def Accepted (item : ConfigItem) : Prop :=
  environment.accepts item.1 item.2 = true

/-- The program sets these items and has no other effect. -/
abbrev Sets (program : Program) (items : List ConfigItem) : Prop :=
  Performs (setItem settings.build) (Accepted environment) program items

variable {settings environment}

theorem setConfigItem_sets (key value : String) :
    Sets settings environment (setConfigItem settings environment key value)
      [(key, value)] := by
  by_cases accepted : environment.accepts key value = true
  · refine Or.inl ⟨by simpa [Accepted] using accepted, PUnit.unit, ?_⟩
    intro config
    simp [setConfigItem, accepted]
  · apply performs_of_error
    intro config
    exact if_neg accepted

theorem take_sets (step : Step) (message : String → String) :
    Sets settings environment (take environment step message) [] := by
  cases failed : environment.fails step with
  | none =>
      refine Or.inl ⟨by simp, PUnit.unit, ?_⟩
      intro config
      simp [take, failed]
  | some error =>
      apply performs_of_error
      intro config
      simp only [take, failed]
      rfl

theorem setConfigItems_sets (items : List ConfigItem) :
    Sets settings environment (setConfigItems settings environment items)
      items := by
  have each := @Performs.forM String Config ConfigItem ConfigItem
    (setItem settings.build) (Accepted environment) items
    (fun item => setConfigItem settings environment item.1 item.2)
    (fun item => [item]) fun item => setConfigItem_sets item.1 item.2
  rwa [List.flatMap_singleton'] at each

theorem setupNetwork_sets :
    ∃ items,
      Sets settings environment (setupNetwork settings environment)
        items := by
  unfold setupNetwork
  split
  · exact ⟨_, (setConfigItems_sets _).bind fun _ => take_sets _ _⟩
  · exact ⟨[], performs_pure PUnit.unit⟩

theorem addDevice_sets (device : String) (spec : DeviceSpecification) :
    ∃ items,
      Sets settings environment (addDevice settings environment device spec)
        items :=
  ⟨_, (take_sets _ _).bind fun _ => (take_sets _ _).bind fun _ =>
    (take_sets _ _).bind fun _ => (take_sets _ _).bind fun _ =>
      setConfigItem_sets _ _⟩

theorem addExtraProperties_sets (extraProperties : List String) :
    ∃ items,
      Sets settings environment
        (addExtraProperties settings environment extraProperties)
        items := by
  unfold addExtraProperties
  split
  · exact ⟨_, (take_sets _ _).bind fun _ => (take_sets _ _).bind fun _ =>
      setConfigItem_sets _ _⟩
  · exact ⟨[], performs_pure PUnit.unit⟩

theorem addMounts_sets (bindMounts : List (String × String))
    (devices : List (String × DeviceSpecification))
    (extraProperties : List String) :
    ∃ items,
      Sets settings environment
        (addMounts settings environment bindMounts devices extraProperties)
        items := by
  choose deviceItems deviceSets using
    fun entry : String × DeviceSpecification =>
      @addDevice_sets settings environment entry.1 entry.2
  rcases addExtraProperties_sets extraProperties with
    ⟨propertyItems, propertySets⟩
  exact ⟨_, (Performs.forM fun _ => setConfigItem_sets _ _).bind fun _ =>
    (take_sets _ _).bind fun _ => (Performs.forM deviceSets).bind fun _ =>
      propertySets⟩

theorem mapIds_sets :
    ∃ items,
      Sets settings environment (mapIds settings environment) items := by
  unfold mapIds
  split
  · exact ⟨[], performs_pure PUnit.unit⟩
  · exact ⟨_, Performs.forM fun value => setConfigItem_sets _ value⟩

theorem addBinderAndMounts_sets (configuration : Configuration) :
    ∃ items,
      Sets settings environment
        (addBinderAndMounts settings environment configuration) items := by
  unfold addBinderAndMounts
  split
  · split
    · exact ⟨[], performs_of_error (fun _ => rfl) []⟩
    · exact addMounts_sets _ _ _
  · exact addMounts_sets _ _ _

/-- The items that a start sets do not depend on what is configured. -/
theorem configureRest_sets (configuration : Configuration) :
    ∃ items,
      Sets settings environment
        (configureRest settings environment configuration) items := by
  rcases @setupNetwork_sets settings environment with
    ⟨networkItems, networkSets⟩
  rcases @mapIds_sets settings environment with ⟨idMapItems, idMapSets⟩
  rcases @addBinderAndMounts_sets settings environment configuration with
    ⟨mountItems, mountSets⟩
  exact ⟨_, (setConfigItems_sets _).bind fun _ =>
    networkSets.bind fun _ => (setConfigItems_sets _).bind fun _ =>
      idMapSets.bind fun _ => mountSets⟩

/-- A start sets the leading items, `lxc.environment` and some others. -/
theorem configure_sets (configuration : Configuration) :
    ∃ rest,
      Sets settings environment
          (configureRest settings environment configuration) rest ∧
        Sets settings environment
          (configure settings environment configuration)
          (leadingItems settings ++ environmentItem :: rest) := by
  rcases @configureRest_sets settings environment configuration with
    ⟨rest, restSets⟩
  exact ⟨rest, restSets, (setConfigItems_sets _).bind fun _ =>
    (setConfigItems_sets _).bind fun _ => restSets⟩

end Writes

end Anbox.Lxc.LxcContainer
