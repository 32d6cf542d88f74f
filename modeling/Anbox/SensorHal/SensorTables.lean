import Anbox.Json.Reader
import Anbox.SensorHal.PayloadConversion
import Anbox.SensorHal.Reporting

/-!
# The tables of sensors

`buildSensorsFromConfig` makes a list of sensors, whose positions are the
handles, and two tables between handles and VIS properties.  Each sensor is in
the table by handle.  The table by VIS property keeps the first sensor of a
property only, and `subscriptionHandler` looks a notification up there, so the
other sensors of a property never get a value.

The numbers of the sensor types come from the interface definition of the
sensors HAL.
-/

namespace Anbox.SensorHal.SensorTables

open Anbox.Foundation.Fallible
open Anbox.Foundation.JsonText (Text ascii)
open Anbox.Json (Double Fault Value)
open Anbox.Json.Reader (asString)
open Anbox.SensorHal.Activation (SensorType)
open Anbox.SensorHal.PayloadConversion

structure SensorInfo (Single : Type) where
  sensorHandle : Nat
  name : Text
  vendor : Text
  version : Int
  type : SensorType
  typeAsString : Text
  maxRange : Single
  resolution : Single
  power : Single
  minDelay : Int
  maxDelay : Int
  requiredPermission : Text
  flags : Int

structure ExtendedSensorInfo (Single : Type) where
  si : SensorInfo Single
  visPropertyName : Text
  enabled : Bool
  eventPayload : EventPayload Single

structure Tables (Single : Type) where
  sensorList : List (ExtendedSensorInfo Single)
  visToSensorHandle : Text → Option Nat
  sensorHandleToVis : Nat → Option Text

def Tables.empty {Single : Type} : Tables Single :=
  ⟨[], fun _ => none, fun _ => none⟩

/-- `emplace` keeps an entry that is there. -/
def emplace {Key Element : Type} [DecidableEq Key]
    (table : Key → Option Element) (key : Key) (element : Element) :
    Key → Option Element :=
  match table key with
  | some _ => table
  | none => Function.update table key (some element)

/-! ## The configuration -/

/-- What the configuration of sensors depends on. -/
structure Environment (Single : Type) where
  /-- The sensor types of the interface definition. -/
  sensorType : Int → SensorType
  toFloat : Value → Single
  realText : Double → Text
  /-- The float in a payload that no one has written to. -/
  zero : Single

def ksSensorName : Text := ascii "sensor-name"
def ksSensorVendor : Text := ascii "sensor-vendor"
def ksVersion : Text := ascii "version"
def ksSensorType : Text := ascii "sensor-type"
def ksSensorTypeString : Text := ascii "sensor-type-string"
def ksMaxRange : Text := ascii "max-range"
def ksResolution : Text := ascii "resolution"
def ksPower : Text := ascii "power"
def ksMinDelay : Text := ascii "min-delay"
def ksMaxDelay : Text := ascii "max-delay"
def ksPermission : Text := ascii "permission"
def ksFlags : Text := ascii "flags"
def ksVisProperty : Text := ascii "vis-property"

section

variable {Single : Type} (environment : Environment Single)

def readSensor (sensorHandle : Nat) (val : Value) :
    Except Fault (ExtendedSensorInfo Single) := do
  let text (key : Text) := do
    asString environment.realText (← val.member key)
  let integer (key : Text) := do (← val.member key).asInt
  let float (key : Text) := do
    (← val.member key).asFloat environment.toFloat
  let name ← text ksSensorName
  let vendor ← text ksSensorVendor
  let version ← integer ksVersion
  let type ← integer ksSensorType
  let typeAsString ← text ksSensorTypeString
  let maxRange ← float ksMaxRange
  let resolution ← float ksResolution
  let power ← float ksPower
  let minDelay ← integer ksMinDelay
  let maxDelay ← integer ksMaxDelay
  let requiredPermission ← text ksPermission
  let flags ← (← val.member ksFlags).asUInt
  let visProperty ← text ksVisProperty
  return {
    si := {
      sensorHandle, name, vendor, version, typeAsString, maxRange, resolution,
      power, minDelay, maxDelay, requiredPermission, flags
      type := environment.sensorType type }
    visPropertyName := visProperty
    enabled := false
    eventPayload := ⟨fun _ => environment.zero, 0, 0⟩ }

def addSensor (tables : Tables Single) (esi : ExtendedSensorInfo Single) :
    Tables Single where
  sensorList := tables.sensorList ++ [esi]
  visToSensorHandle :=
    emplace tables.visToSensorHandle esi.visPropertyName esi.si.sensorHandle
  sensorHandleToVis :=
    emplace tables.sensorHandleToVis esi.si.sensorHandle esi.visPropertyName

/-- The loop over the configuration. -/
def addSensors : List Value → Tables Single → Except Fault (Tables Single)
  | [], tables => .ok tables
  | val :: vals, tables => do
      let esi ← readSensor environment tables.sensorList.length val
      addSensors vals (addSensor tables esi)

/--
The flag is the result of the function.  There is no document if the file
cannot be opened or parsed, and a document that is no array is accepted.
-/
def buildSensorsFromConfig (document : Option Value)
    (tables : Tables Single) : Except Fault (Bool × Tables Single) :=
  match document with
  | none => .ok (false, tables)
  | some (.array vals) => do
      let tables ← addSensors environment vals tables
      return (true, tables)
  | some _ => .ok (true, tables)

end

/-! ## Notifications -/

/-- A flattened message: a map by VIS property. -/
structure CommandResult where
  entries : List (Text × Value)
  distinct : (entries.map Prod.fst).Nodup

section

variable {Single : Type} (toFloat : Value → Single)

/-- One turn of the loop; events are left out. -/
def receive (tables : Tables Single) (item : Text × Value) :
    Except Fault (Tables Single) :=
  match tables.visToSensorHandle item.1 with
  | none => .ok tables
  | some handle =>
      match tables.sensorList[handle]? with
      | none => .ok tables
      | some sensor => do
          let (_, payload) ←
            convertJsonToSensorPayload toFloat sensor.si.type
              sensor.eventPayload item.2
          return { tables with
            sensorList :=
              tables.sensorList.set handle
                { sensor with eventPayload := payload } }

def subscriptionHandler (tables : Tables Single) (result : CommandResult) :
    Except Fault (Tables Single) :=
  result.entries.foldlM (receive toFloat) tables

/-- The tables after notifications. -/
def receiveAll (tables : Tables Single) (results : List CommandResult) :
    Except Fault (Tables Single) :=
  results.foldlM (subscriptionHandler toFloat) tables

end

/-! ## What the tables hold -/

section

variable {Single : Type}

/-- Both tables come from the list of sensors. -/
structure Built (tables : Tables Single) : Prop where
  first (name : Text) :
    tables.visToSensorHandle name =
      tables.sensorList.findIdx? fun sensor => sensor.visPropertyName = name
  named (handle : Nat) :
    tables.sensorHandleToVis handle =
      tables.sensorList[handle]?.map ExtendedSensorInfo.visPropertyName

theorem built_empty : Built (Tables.empty : Tables Single) where
  first _ := rfl
  named _ := rfl

theorem emplace_apply {Key Element : Type} [DecidableEq Key]
    (table : Key → Option Element) (key other : Key) (element : Element) :
    emplace table key element other =
      (table other).or (if other = key then some element else none) := by
  unfold emplace
  by_cases same : other = key
  · subst same
    cases present : table other with
    | some there => simp [present]
    | none => simp
  · cases table key with
    | some there => simp [same]
    | none => simp [same]

/-- The handle of a new sensor is its position. -/
theorem Built.addSensor {tables : Tables Single} (built : Built tables)
    {esi : ExtendedSensorInfo Single}
    (position : esi.si.sensorHandle = tables.sensorList.length) :
    Built (addSensor tables esi) where
  first name := by
    simp only [SensorTables.addSensor, emplace_apply, built.first, position,
      List.findIdx?_append, List.findIdx?_singleton, decide_eq_true_eq,
      eq_comm (a := esi.visPropertyName)]
    split
    · simp
    · simp
  named handle := by
    simp only [SensorTables.addSensor, emplace_apply, built.named, position]
    rcases Nat.lt_trichotomy handle tables.sensorList.length with
      before | same | behind
    · rw [List.getElem?_append_left before]
      simp [before, before.ne]
    · subst same
      simp
    · rw [if_neg behind.ne', Option.or_none,
        List.getElem?_eq_none behind.le, List.getElem?_eq_none]
      simpa using behind

theorem yields_readSensor (environment : Environment Single)
    (handle : Nat) (val : Value) :
    Yields (fun esi => esi.si.sensorHandle = handle)
      (readSensor environment handle val) := by
  unfold readSensor
  iterate 14 refine .bind fun _ => ?_
  exact .pure rfl

theorem Built.addSensors {environment : Environment Single}
    {vals : List Value} {tables final : Tables Single}
    (built : Built tables)
    (added : addSensors environment vals tables = .ok final) :
    Built final := by
  induction vals generalizing tables with
  | nil =>
      cases added
      exact built
  | cons val vals inductionHypothesis =>
      rcases ok_of_bind added with ⟨esi, read, continued⟩
      exact inductionHypothesis
        (built.addSensor (yields_readSensor environment _ val esi read))
        continued

theorem built_of_buildSensorsFromConfig {environment : Environment Single}
    {root : Option Value} {flag : Bool} {tables : Tables Single}
    (returned :
      buildSensorsFromConfig environment root .empty = .ok (flag, tables)) :
    Built tables := by
  unfold buildSensorsFromConfig at returned
  split at returned
  · cases returned
    exact built_empty
  · rcases ok_of_bind returned with ⟨final, added, same⟩
    cases same
    exact built_empty.addSensors added
  · cases returned
    exact built_empty

/-! ## Tables that agree -/

/-- Both tables describe the same relation. -/
def TablesAgree (tables : Tables Single) : Prop :=
  ∀ name handle,
    tables.visToSensorHandle name = some handle ↔
      tables.sensorHandleToVis handle = some name

variable {tables : Tables Single}

/-- The first sensor of a property has this property. -/
theorem Built.sensor_of_first (built : Built tables) {name : Text}
    {handle : Nat} (first : tables.visToSensorHandle name = some handle) :
    ∃ sensor, tables.sensorList[handle]? = some sensor ∧
      sensor.visPropertyName = name := by
  rw [built.first, List.findIdx?_eq_some_iff_getElem] at first
  rcases first with ⟨inside, own, -⟩
  exact ⟨_, List.getElem?_eq_getElem inside, of_decide_eq_true own⟩

theorem Built.first_of_nodup (built : Built tables)
    (distinct :
      (tables.sensorList.map ExtendedSensorInfo.visPropertyName).Nodup)
    {handle : Nat} {sensor : ExtendedSensorInfo Single}
    (found : tables.sensorList[handle]? = some sensor) :
    tables.visToSensorHandle sensor.visPropertyName = some handle := by
  rcases List.getElem?_eq_some_iff.mp found with ⟨inside, own⟩
  rw [built.first, List.findIdx?_eq_some_iff_getElem]
  refine ⟨inside, by simp [own], ?_⟩
  intro other before
  rw [decide_eq_true_eq]
  intro same
  have different := List.pairwise_iff_getElem.mp distinct other handle
    (by simpa using before.trans inside) (by simpa using inside) before
  simp [own, same] at different

theorem Built.tablesAgree_iff (built : Built tables) :
    TablesAgree tables ↔
      (tables.sensorList.map ExtendedSensorInfo.visPropertyName).Nodup := by
  constructor
  · intro agree
    refine List.nodup_iff_injective_get.mpr ?_
    intro left right same
    have handleOf (index : Fin
        (tables.sensorList.map
          ExtendedSensorInfo.visPropertyName).length) :
        tables.visToSensorHandle
            ((tables.sensorList.map
              ExtendedSensorInfo.visPropertyName).get index) =
          some index.val := by
      rw [agree, built.named, ← List.getElem?_map]
      exact List.getElem?_eq_getElem index.isLt
    have handles := (handleOf left).symm.trans
      ((congrArg tables.visToSensorHandle same).trans (handleOf right))
    exact Fin.ext (Option.some.inj handles)
  · intro distinct name handle
    rw [built.named, Option.map_eq_some_iff]
    constructor
    · exact built.sensor_of_first
    · rintro ⟨sensor, found, rfl⟩
      exact built.first_of_nodup distinct found

end

/-! ## The sensors of the threads -/

/-- What the threads that report events take from the configuration. -/
def configuration {Single : Type} (text : Text → String)
    (tables : Tables Single) :
    Reporting.Configuration (EventPayload Single) :=
  tables.sensorList.map fun sensor =>
    (text sensor.visPropertyName, sensor.si.type, sensor.eventPayload)

/-- They find the same sensors. -/
theorem Built.visToSensorHandle_configuration {Single : Type}
    {tables : Tables Single} (built : Built tables) {text : Text → String}
    (injective : Function.Injective text) (name : Text) :
    Reporting.visToSensorHandle (configuration text tables) (text name) =
      (tables.visToSensorHandle name).map fun handle =>
        Int32.ofNat handle := by
  simp only [Reporting.visToSensorHandle, configuration, List.findIdx?_map,
    built.first, Function.comp_def, injective.eq_iff]

/-! ## Sensors that follow -/

section

variable {Single : Type} (toFloat : Value → Single)

/-- The sensors of this property hold the value, if they accept it. -/
def FollowsItem (tables : Tables Single) (item : Text × Value) : Prop :=
  ∀ (handle : Nat) sensor, tables.sensorList[handle]? = some sensor →
    sensor.visPropertyName = item.1 → Accepted sensor.si.type item.2 →
      Holds toFloat sensor.si.type item.2 sensor.eventPayload
        sensor.eventPayload

/-- Every sensor holds the value that its property has in the message. -/
def Follows (tables : Tables Single) (entries : List (Text × Value)) :
    Prop :=
  ∀ item ∈ entries, FollowsItem toFloat tables item

/--
The first sensor of the property can read the value, and no other number of
steps than one is given to it; the other sensors of the property that accept
the value hold it already.
-/
def ReadyForItem (tables : Tables Single) (item : Text × Value) : Prop :=
  ∀ (handle : Nat) sensor, tables.sensorList[handle]? = some sensor →
    sensor.visPropertyName = item.1 →
      if tables.visToSensorHandle item.1 = some handle then
        Readable sensor.si.type item.2 ∧
          (Accepted sensor.si.type item.2 →
            CountsOne sensor.si.type item.2)
      else Accepted sensor.si.type item.2 →
        Holds toFloat sensor.si.type item.2 sensor.eventPayload
          sensor.eventPayload

def Ready (tables : Tables Single) (entries : List (Text × Value)) : Prop :=
  ∀ item ∈ entries, ReadyForItem toFloat tables item

/-- The sensors of the property but the one with this handle follow. -/
def OthersFollow (tables : Tables Single) (handle : Nat)
    (item : Text × Value) : Prop :=
  ∀ (other : Nat) sensor, tables.sensorList[other]? = some sensor →
    sensor.visPropertyName = item.1 → handle ≠ other →
      Accepted sensor.si.type item.2 →
        Holds toFloat sensor.si.type item.2 sensor.eventPayload
          sensor.eventPayload

/-- The sensors of such properties are the same in both. -/
structure SameSensors (Considered : Text → Prop)
    (tables next : Tables Single) : Prop where
  visToSensorHandle : next.visToSensorHandle = tables.visToSensorHandle
  sensorHandleToVis : next.sensorHandleToVis = tables.sensorHandleToVis
  names :
    next.sensorList.map ExtendedSensorInfo.visPropertyName =
      tables.sensorList.map ExtendedSensorInfo.visPropertyName
  sensors (handle : Nat) (sensor : ExtendedSensorInfo Single) :
    Considered sensor.visPropertyName →
      (next.sensorList[handle]? = some sensor ↔
        tables.sensorList[handle]? = some sensor)

variable {toFloat} {tables next final : Tables Single}
  {item : Text × Value} {entries : List (Text × Value)}

/-! ## One entry of a message -/

namespace SameSensors

variable {Considered Fewer : Text → Prop}

theorem refl : SameSensors Considered tables tables where
  visToSensorHandle := rfl
  sensorHandleToVis := rfl
  names := rfl
  sensors _ _ _ := Iff.rfl

theorem trans (first : SameSensors Considered tables next)
    (second : SameSensors Considered next final) :
    SameSensors Considered tables final where
  visToSensorHandle :=
    second.visToSensorHandle.trans first.visToSensorHandle
  sensorHandleToVis :=
    second.sensorHandleToVis.trans first.sensorHandleToVis
  names := second.names.trans first.names
  sensors handle sensor considered :=
    (second.sensors handle sensor considered).trans
      (first.sensors handle sensor considered)

theorem mono (same : SameSensors Considered tables next)
    (fewer : ∀ name, Fewer name → Considered name) :
    SameSensors Fewer tables next where
  visToSensorHandle := same.visToSensorHandle
  sensorHandleToVis := same.sensorHandleToVis
  names := same.names
  sensors handle sensor considered :=
    same.sensors handle sensor (fewer _ considered)

theorem built (same : SameSensors Considered tables next)
    (built : Built tables) : Built next where
  first name := by
    have names (sensors : List (ExtendedSensorInfo Single)) :
        (sensors.findIdx? fun sensor => sensor.visPropertyName = name) =
          (sensors.map ExtendedSensorInfo.visPropertyName).findIdx?
            (fun other => other = name) := by
      rw [List.findIdx?_map]
      rfl
    rw [same.visToSensorHandle, built.first, names, names, same.names]
  named handle := by
    rw [same.sensorHandleToVis, built.named, ← List.getElem?_map,
      ← List.getElem?_map, same.names]

theorem followsItem_iff (same : SameSensors Considered tables next)
    (considered : Considered item.1) :
    FollowsItem toFloat next item ↔ FollowsItem toFloat tables item := by
  refine forall_congr' fun handle => forall_congr' fun sensor => ?_
  by_cases own : sensor.visPropertyName = item.1
  · rw [same.sensors handle sensor (own ▸ considered)]
  · simp [own]

theorem readyForItem_iff (same : SameSensors Considered tables next)
    (considered : Considered item.1) :
    ReadyForItem toFloat next item ↔ ReadyForItem toFloat tables item := by
  refine forall_congr' fun handle => forall_congr' fun sensor => ?_
  rw [same.visToSensorHandle]
  by_cases own : sensor.visPropertyName = item.1
  · rw [same.sensors handle sensor (own ▸ considered)]
  · simp [own]

end SameSensors

/-- An entry is given to the first sensor of its property. -/
theorem receive_of_first {handle : Nat} {sensor : ExtendedSensorInfo Single}
    (first : tables.visToSensorHandle item.1 = some handle)
    (found : tables.sensorList[handle]? = some sensor) :
    receive toFloat tables item = .ok next ↔
      ∃ outcome,
        convertJsonToSensorPayload toFloat sensor.si.type
            sensor.eventPayload item.2 = .ok outcome ∧
          next =
            { tables with
              sensorList :=
                tables.sensorList.set handle
                  { sensor with eventPayload := outcome.2 } } := by
  simp only [receive, first, found]
  constructor
  · intro returned
    rcases ok_of_bind returned with ⟨outcome, converted, same⟩
    cases same
    exact ⟨outcome, converted, rfl⟩
  · rintro ⟨outcome, converted, rfl⟩
    rw [converted]
    rfl

/-- The sensors of other properties stay as they are. -/
theorem Built.sameSensors_of_receive (built : Built tables)
    (received : receive toFloat tables item = .ok next) :
    SameSensors (· ≠ item.1) tables next := by
  cases first : tables.visToSensorHandle item.1 with
  | none =>
      simp only [receive, first, Except.ok.injEq] at received
      subst received
      exact .refl
  | some handle =>
      rcases built.sensor_of_first first with ⟨sensor, found, own⟩
      rcases (receive_of_first first found).mp received with
        ⟨outcome, -, rfl⟩
      rcases List.getElem?_eq_some_iff.mp found with ⟨inside, same⟩
      constructor
      case visToSensorHandle => rfl
      case sensorHandleToVis => rfl
      case names =>
        refine List.ext_getElem? fun other => ?_
        simp only [List.map_set, List.getElem?_set, List.length_map]
        split
        · next equal =>
          subst equal
          simp [inside, same]
        · rfl
      case sensors =>
        intro other candidate different
        rw [List.getElem?_set]
        split
        · next equal =>
          subst equal
          refine iff_of_false ?_ ?_
          · rintro ⟨⟩
            exact different own
          · rw [found]
            rintro ⟨⟩
            exact different own
        · rfl

theorem followsItem_set_iff {handle : Nat}
    {sensor : ExtendedSensorInfo Single} {payload : EventPayload Single}
    (found : tables.sensorList[handle]? = some sensor)
    (own : sensor.visPropertyName = item.1) :
    FollowsItem toFloat
        { tables with
          sensorList :=
            tables.sensorList.set handle
              { sensor with eventPayload := payload } } item ↔
      (Accepted sensor.si.type item.2 →
          Holds toFloat sensor.si.type item.2 payload payload) ∧
        OthersFollow toFloat tables handle item := by
  rcases List.getElem?_eq_some_iff.mp found with ⟨inside, -⟩
  constructor
  · intro follows
    constructor
    · exact follows handle { sensor with eventPayload := payload }
        (List.getElem?_set_self inside) own
    · intro other candidate stored same different
      refine follows other candidate ?_ same
      rwa [List.getElem?_set_ne different]
  · rintro ⟨first, others⟩ other candidate stored same
    by_cases equal : handle = other
    · subst equal
      rw [List.getElem?_set_self inside] at stored
      cases stored
      exact first
    · rw [List.getElem?_set_ne equal] at stored
      exact others other candidate stored same equal

theorem readyForItem_iff_first {handle : Nat}
    {sensor : ExtendedSensorInfo Single}
    (first : tables.visToSensorHandle item.1 = some handle)
    (found : tables.sensorList[handle]? = some sensor)
    (own : sensor.visPropertyName = item.1) :
    ReadyForItem toFloat tables item ↔
      (Readable sensor.si.type item.2 ∧
          (Accepted sensor.si.type item.2 →
            CountsOne sensor.si.type item.2)) ∧
        OthersFollow toFloat tables handle item := by
  simp only [ReadyForItem, first, Option.some.injEq]
  constructor
  · intro ready
    constructor
    · have received := ready handle sensor found own
      rwa [if_pos rfl] at received
    · intro other candidate stored same different
      have kept := ready other candidate stored same
      rwa [if_neg different] at kept
  · rintro ⟨received, others⟩ other candidate stored same
    split
    · next equal =>
      subst equal
      rw [found] at stored
      cases stored
      exact received
    · next different => exact others other candidate stored same different

/-- The sensors of a property follow an entry if they are ready for it. -/
theorem Built.receive_follows_iff (built : Built tables) :
    (∃ next, receive toFloat tables item = .ok next ∧
        FollowsItem toFloat next item) ↔
      ReadyForItem toFloat tables item := by
  cases first : tables.visToSensorHandle item.1 with
  | none =>
      have absent (handle : Nat) (sensor : ExtendedSensorInfo Single)
          (found : tables.sensorList[handle]? = some sensor) :
          sensor.visPropertyName ≠ item.1 := by
        rw [built.first, List.findIdx?_eq_none_iff] at first
        simpa using first sensor (List.mem_of_getElem? found)
      refine iff_of_true ⟨tables, by simp [receive, first], ?_⟩ ?_
      · intro handle sensor found own
        exact absurd own (absent handle sensor found)
      · intro handle sensor found own
        exact absurd own (absent handle sensor found)
  | some handle =>
      rcases built.sensor_of_first first with ⟨sensor, found, own⟩
      rw [readyForItem_iff_first first found own, ← convert_holds_iff]
      simp only [receive_of_first first found]
      constructor
      · rintro ⟨_, ⟨outcome, converted, rfl⟩, follows⟩
        rcases (followsItem_set_iff found own).mp follows with
          ⟨holds, others⟩
        exact ⟨⟨outcome, converted, holds⟩, others⟩
      · rintro ⟨⟨outcome, converted, holds⟩, others⟩
        exact ⟨_, ⟨outcome, converted, rfl⟩,
          (followsItem_set_iff found own).mpr ⟨holds, others⟩⟩

/-! ## Whole messages -/

/-- Sensors of properties that do not occur stay as they are. -/
theorem Built.sameSensors_of_foldlM (built : Built tables)
    (received : entries.foldlM (receive toFloat) tables = .ok final) :
    SameSensors (· ∉ entries.map Prod.fst) tables final := by
  induction entries generalizing tables with
  | nil =>
      cases received
      exact .refl
  | cons item entries inductionHypothesis =>
      rw [List.foldlM_cons] at received
      rcases ok_of_bind received with ⟨next, first, continued⟩
      have same := built.sameSensors_of_receive first
      have later := inductionHypothesis (same.built built) continued
      refine (same.mono ?_).trans (later.mono ?_)
      · intro name absent equal
        exact absent (by simp [equal])
      · intro name absent member
        exact absent (List.mem_cons_of_mem _ member)

theorem Built.foldlM_follows_iff (built : Built tables)
    (distinct : (entries.map Prod.fst).Nodup) :
    (∃ final, entries.foldlM (receive toFloat) tables = .ok final ∧
        Follows toFloat final entries) ↔
      Ready toFloat tables entries := by
  induction entries generalizing tables with
  | nil =>
      refine iff_of_true ⟨tables, rfl, ?_⟩ ?_
      · exact List.forall_mem_nil _
      · exact List.forall_mem_nil _
  | cons item entries inductionHypothesis =>
      rcases List.nodup_cons.mp distinct with ⟨absent, distinct⟩
      -- the first entry does not change the sensors of the later ones
      have later {next : Tables Single}
          (first : receive toFloat tables item = .ok next) :
          (∃ final,
              entries.foldlM (receive toFloat) next = .ok final ∧
                Follows toFloat final entries) ↔
            Ready toFloat tables entries := by
        have same := built.sameSensors_of_receive first
        rw [inductionHypothesis (same.built built) distinct]
        refine forall₂_congr fun other member => ?_
        refine same.readyForItem_iff fun equal => ?_
        exact absent (equal ▸ List.mem_map_of_mem member)
      -- and the later ones do not change its sensors
      have earlier {next final : Tables Single}
          (first : receive toFloat tables item = .ok next)
          (continued :
            entries.foldlM (receive toFloat) next = .ok final) :
          FollowsItem toFloat final item ↔ FollowsItem toFloat next item :=
        (((built.sameSensors_of_receive first).built
          built).sameSensors_of_foldlM continued).followsItem_iff absent
      rw [Ready, List.forall_mem_cons, ← built.receive_follows_iff]
      constructor
      · rintro ⟨final, received, follows⟩
        rw [List.foldlM_cons] at received
        rcases ok_of_bind received with ⟨next, first, continued⟩
        rcases List.forall_mem_cons.mp follows with ⟨own, others⟩
        exact ⟨⟨next, first, (earlier first continued).mp own⟩,
          (later first).mp ⟨final, continued, others⟩⟩
      · rintro ⟨⟨next, first, own⟩, ready⟩
        rcases (later first).mpr ready with ⟨final, continued, others⟩
        refine ⟨final, ?_, List.forall_mem_cons.mpr
          ⟨(earlier first continued).mpr own, others⟩⟩
        rw [List.foldlM_cons, first]
        exact continued

theorem Built.receiveAll {results : List CommandResult}
    (built : Built tables)
    (received : receiveAll toFloat tables results = .ok final) :
    Built final := by
  induction results generalizing tables with
  | nil =>
      cases received
      exact built
  | cons result results inductionHypothesis =>
      rw [SensorTables.receiveAll, List.foldlM_cons] at received
      rcases ok_of_bind received with ⟨next, handled, continued⟩
      exact inductionHypothesis
        ((built.sameSensors_of_foldlM handled).built built) continued

end

/-! ## Sensors that share a property -/

/-- With one sensor for each property only the values matter. -/
theorem Built.ready_iff_of_nodup {Single : Type} {toFloat : Value → Single}
    {tables : Tables Single} {entries : List (Text × Value)}
    (built : Built tables)
    (distinct :
      (tables.sensorList.map ExtendedSensorInfo.visPropertyName).Nodup) :
    Ready toFloat tables entries ↔
      ∀ item ∈ entries, ∀ sensor ∈ tables.sensorList,
        sensor.visPropertyName = item.1 →
          Readable sensor.si.type item.2 ∧
            (Accepted sensor.si.type item.2 →
              CountsOne sensor.si.type item.2) := by
  refine forall₂_congr fun item member => ?_
  constructor
  · intro ready sensor listed own
    rcases List.getElem?_of_mem listed with ⟨handle, found⟩
    have received := ready handle sensor found own
    rwa [← own, if_pos (built.first_of_nodup distinct found)] at received
  · intro received handle sensor found own
    rw [← own, if_pos (built.first_of_nodup distinct found)]
    exact received sensor (List.mem_of_getElem? found) own

/--
The tables agree if no two sensors share a property.  A message is followed if
the sensors of its properties are ready for it.
-/
theorem sensors_follow_iff {Single : Type}
    (environment : Environment Single) (root : Option Value)
    (tables : Tables Single)
    (configured :
      buildSensorsFromConfig environment root .empty = .ok (true, tables))
    (earlier : List CommandResult) (state : Tables Single)
    (received :
      receiveAll environment.toFloat tables earlier = .ok state)
    (result : CommandResult) :
    (TablesAgree tables ↔
        (tables.sensorList.map
          ExtendedSensorInfo.visPropertyName).Nodup) ∧
      ((∃ final,
          subscriptionHandler environment.toFloat state result =
              .ok final ∧
            Follows environment.toFloat final result.entries) ↔
        Ready environment.toFloat state result.entries) := by
  have built := built_of_buildSensorsFromConfig configured
  exact ⟨built.tablesAgree_iff,
    (built.receiveAll received).foldlM_follows_iff result.distinct⟩

/-! ### Lights and a count of steps -/

def exampleEnvironment : Environment Int where
  sensorType type :=
    if type = 5 then .light
    else if type = 19 then .stepCounter
    else .metaData
  toFloat value := value.integer.getD 0
  realText _ := []
  zero := 0

def lightConfig : Value :=
  .object [(ksVisProperty, .string (ascii "light")), (ksSensorType, .int 5)]

def stepsConfig : Value :=
  .object [(ksVisProperty, .string (ascii "steps")), (ksSensorType, .int 19)]

def light (handle : Nat) : ExtendedSensorInfo Int where
  si := ⟨handle, [], [], 0, .light, [], 0, 0, 0, 0, 0, [], 0⟩
  visPropertyName := ascii "light"
  enabled := false
  eventPayload := ⟨fun _ => 0, 0, 0⟩

def steps : ExtendedSensorInfo Int where
  si := ⟨1, [], [], 0, .stepCounter, [], 0, 0, 0, 0, 0, [], 0⟩
  visPropertyName := ascii "steps"
  enabled := false
  eventPayload := ⟨fun _ => 0, 0, 0⟩

theorem readSensor_lightConfig (handle : Nat) :
    readSensor exampleEnvironment handle lightConfig =
      .ok (light handle) :=
  rfl

def oneLight : Tables Int := addSensor .empty (light 0)

def twoLights : Tables Int := addSensor oneLight (light 1)

def lightAndSteps : Tables Int := addSensor oneLight steps

def brighter : CommandResult where
  entries := [(ascii "light", .int 7)]
  distinct := List.nodup_singleton _

/-- It is brighter after the first step. -/
def brighterOneStep : CommandResult where
  entries := [(ascii "light", .int 7), (ascii "steps", .int 1)]
  distinct := by decide

theorem built_twoLights :
    buildSensorsFromConfig exampleEnvironment
        (some (.array [lightConfig, lightConfig])) .empty =
      .ok (true, twoLights) := by
  simp only [buildSensorsFromConfig, addSensors, readSensor_lightConfig]
  rfl

theorem built_lightAndSteps :
    buildSensorsFromConfig exampleEnvironment
        (some (.array [lightConfig, stepsConfig])) .empty =
      .ok (true, lightAndSteps) := by
  simp only [buildSensorsFromConfig, addSensors, readSensor_lightConfig]
  rfl

/-- A light and a count of steps follow their properties. -/
theorem sensors_follow_iff_lightAndSteps :
    ∃ final,
      subscriptionHandler exampleEnvironment.toFloat lightAndSteps
          brighterOneStep = .ok final ∧
        Follows exampleEnvironment.toFloat final brighterOneStep.entries := by
  refine (sensors_follow_iff exampleEnvironment _ lightAndSteps
    built_lightAndSteps [] lightAndSteps rfl brighterOneStep).2.mpr ?_
  have built := built_of_buildSensorsFromConfig built_lightAndSteps
  refine (built.ready_iff_of_nodup (by decide)).mpr ?_
  intro item member sensor listed own
  rcases List.mem_pair.mp listed with rfl | rfl
  · exact ⟨trivial, fun _ impossible => by cases impossible⟩
  · rcases List.mem_pair.mp member with rfl | rfl
    · exact absurd own (by decide)
    · exact ⟨trivial, fun _ _ => rfl⟩

/-- The second light of a property is not told how bright it is. -/
theorem second_light_stays_dark :
    buildSensorsFromConfig exampleEnvironment
          (some (.array [lightConfig, lightConfig])) .empty =
        .ok (true, twoLights) ∧
      ¬ TablesAgree twoLights ∧
      ¬ ∃ final,
        subscriptionHandler exampleEnvironment.toFloat twoLights brighter =
            .ok final ∧
          Follows exampleEnvironment.toFloat final brighter.entries := by
  have built := built_of_buildSensorsFromConfig built_twoLights
  refine ⟨built_twoLights, ?_, ?_⟩
  · rw [built.tablesAgree_iff]
    intro distinct
    exact (List.nodup_cons.mp distinct).1 List.mem_cons_self
  · rintro ⟨final, handled, follows⟩
    have ready := (built.foldlM_follows_iff brighter.distinct).mp
      ⟨final, handled, follows⟩
    have second := ready _ List.mem_cons_self 1 (light 1) rfl rfl
    rw [if_neg (by decide)] at second
    have holds := congrArg (fun payload => payload.data 0) (second rfl)
    exact absurd holds (by decide)

end Anbox.SensorHal.SensorTables
