import Anbox.Foundation.WordBits
import Anbox.Lxc.LxcContainer

/-!
# The nodes of devices

`LxcContainer::add_device` makes a node for a device of the host.  It takes the
number of the device apart and encodes it again, and it joins the mode of the
device with the permission from the request.

Only eight bits of the minor number are encoded, and only twelve bits of the
major number are found again.  Of the permission only the bit for sticky files
is cleared.
-/

namespace Anbox.Lxc.DeviceNodes

open Anbox.Foundation.WordBits
open Anbox.Lxc.LxcContainer (unprivilegedUid)

/-! ## Making a node -/

/-- The type `dev_t`. -/
abbrev DeviceNumber := BitVec 64

/-- The members of `struct stat` that are read. -/
structure Stat where
  mode : BitVec 32
  uid : BitVec 32
  gid : BitVec 32
  rdev : DeviceNumber
deriving DecidableEq, Repr

/-- A node in the directory of devices. -/
structure Node where
  mode : BitVec 32
  number : DeviceNumber
  uid : BitVec 32
  gid : BitVec 32
deriving DecidableEq, Repr

def deviceMajor (dev : DeviceNumber) : BitVec 32 :=
  (((dev >>> 8) &&& 0xfff#64) ||| ((dev >>> 32) &&& 0xfffff000#64)).setWidth 32

def deviceMinor (dev : DeviceNumber) : BitVec 32 :=
  ((dev &&& 0xff#64) ||| ((dev >>> 12) &&& 0xffffff00#64)).setWidth 32

/-- The operator `!` on an `int`. -/
def logicalNot (value : BitVec 32) : BitVec 32 := if value = 0 then 1 else 0

/-- A shift of an `int` drops the bits that have no place in it. -/
def encodedDeviceNumber (major minor : BitVec 32) : BitVec 32 :=
  (minor &&& 0xff#32) ||| (major <<< 8) |||
    ((minor &&& logicalNot 0xff#32) <<< 12)

def nodeMode (stMode permission : BitVec 32) : BitVec 32 :=
  ((stMode >>> 9) <<< 9) ||| (permission &&& ~~~(1#32 <<< 9))

/-- The node for a device.  An `int` keeps its sign as a `dev_t`. -/
def makeNode (privileged : Bool) (st : Stat) (permission : BitVec 32) :
    Node :=
  let major := deviceMajor st.rdev
  let minor := deviceMinor st.rdev
  let baseUid := if privileged then 0 else BitVec.ofNat 32 unprivilegedUid
  { mode := nodeMode st.mode permission
    number := (encodedDeviceNumber major minor).signExtend 64
    uid := baseUid + st.uid
    gid := baseUid + st.gid }

/-! ## The bits of a device number -/

section Numbers

variable {index : Nat}

/-- Two fields of a number, shifted to stand one behind the other. -/
theorem getLsbD_joinedFields (dev : DeviceNumber) (near far cut : Nat)
    (inside : index < 32) :
    (((dev >>> near) &&& field 64 0 cut |||
        (dev >>> far) &&& field 64 cut 32).setWidth 32).getLsbD index =
      dev.getLsbD (if index < cut then near + index else far + index) := by
  have within : index < 64 := by omega
  simp only [BitVec.getLsbD_setWidth, BitVec.getLsbD_or,
    BitVec.getLsbD_and, BitVec.getLsbD_ushiftRight, getLsbD_field within,
    inside]
  by_cases small : index < cut
  · simp [small, Nat.not_le.mpr small]
  · simp [small, Nat.le_of_not_lt small]

theorem getLsbD_deviceMajor (dev : DeviceNumber) (inside : index < 32) :
    (deviceMajor dev).getLsbD index =
      dev.getLsbD (if index < 12 then 8 + index else 32 + index) := by
  have low : 0xfff#64 = field 64 0 12 := by decide
  have high : 0xfffff000#64 = field 64 12 32 := by decide
  rw [deviceMajor, low, high]
  exact getLsbD_joinedFields dev 8 32 12 inside

theorem getLsbD_deviceMinor (dev : DeviceNumber) (inside : index < 32) :
    (deviceMinor dev).getLsbD index =
      dev.getLsbD (if index < 8 then index else 12 + index) := by
  have low : 0xff#64 = field 64 0 8 := by decide
  have high : 0xffffff00#64 = field 64 8 32 := by decide
  have fields := getLsbD_joinedFields dev 0 12 8 inside
  rw [BitVec.ushiftRight_zero, Nat.zero_add] at fields
  rw [deviceMinor, low, high]
  exact fields

/-- Of the minor number only eight bits are encoded. -/
theorem getLsbD_encodedDeviceNumber (major minor : BitVec 32)
    (inside : index < 32) :
    (encodedDeviceNumber major minor).getLsbD index =
      if index < 8 then minor.getLsbD index
      else major.getLsbD (index - 8) := by
  have low : 0xff#32 = field 32 0 8 := by decide
  have nothing : logicalNot (field 32 0 8) = 0 := rfl
  simp only [encodedDeviceNumber, low, nothing, BitVec.getLsbD_or,
    BitVec.getLsbD_and, BitVec.getLsbD_shiftLeft, getLsbD_field inside,
    inside]
  by_cases small : index < 8
  · simp [small]
  · simp [small]

/-- The highest bit of the encoded number stands for all that follow. -/
theorem getLsbD_makeNode_number (privileged : Bool) (st : Stat)
    (permission : BitVec 32) (inside : index < 64) :
    (makeNode privileged st permission).number.getLsbD index =
      if index < 8 then (deviceMinor st.rdev).getLsbD index
      else (deviceMajor st.rdev).getLsbD (min (index - 8) 23) := by
  have last : min index 31 < 32 := by omega
  rw [makeNode, getLsbD_signExtend_eq _ inside,
    getLsbD_encodedDeviceNumber _ _ last]
  by_cases small : index < 8
  · have place : min index 31 = index := by omega
    rw [place, if_pos small, if_pos small]
  · have place : min index 31 - 8 = min (index - 8) 23 := by omega
    have high : ¬min index 31 < 8 := by omega
    rw [if_neg high, if_neg small, place]

section Kept

variable (privileged : Bool) (st : Stat) (permission : BitVec 32)

theorem getLsbD_deviceMajor_makeNode (inside : index < 32) :
    (deviceMajor
        (makeNode privileged st permission).number).getLsbD index =
      (deviceMajor st.rdev).getLsbD (if index < 12 then index else 23) := by
  rw [getLsbD_deviceMajor _ inside]
  by_cases small : index < 12
  · have high : ¬8 + index < 8 := by omega
    have place : min (8 + index - 8) 23 = index := by omega
    rw [if_pos small, if_pos small,
      getLsbD_makeNode_number _ _ _ (by omega), if_neg high, place]
  · have high : ¬32 + index < 8 := by omega
    have place : min (32 + index - 8) 23 = 23 := by omega
    rw [if_neg small, if_neg small,
      getLsbD_makeNode_number _ _ _ (by omega), if_neg high, place]

theorem getLsbD_deviceMinor_makeNode (inside : index < 32) :
    (deviceMinor
        (makeNode privileged st permission).number).getLsbD index =
      if index < 8 then (deviceMinor st.rdev).getLsbD index
      else (deviceMajor st.rdev).getLsbD (min (4 + index) 23) := by
  rw [getLsbD_deviceMinor _ inside]
  by_cases small : index < 8
  · rw [if_pos small, if_pos small,
      getLsbD_makeNode_number _ _ _ (by omega), if_pos small]
  · have high : ¬12 + index < 8 := by omega
    have place : 12 + index - 8 = 4 + index := by omega
    rw [if_neg small, if_neg small,
      getLsbD_makeNode_number _ _ _ (by omega), if_neg high, place]

end Kept

end Numbers

/-! ## The number of the device -/

/-- The node has the major and the minor number of the device. -/
def KeepsNumber (st : Stat) (node : Node) : Prop :=
  deviceMajor node.number = deviceMajor st.rdev ∧
    deviceMinor node.number = deviceMinor st.rdev

instance (st : Stat) (node : Node) : Decidable (KeepsNumber st node) :=
  inferInstanceAs (Decidable (_ ∧ _))

/-- All further bits of the major and the minor number are the same. -/
def HasSign (dev : DeviceNumber) (sign : Bool) : Prop :=
  (∀ index < 32, 12 ≤ index →
      (deviceMajor dev).getLsbD index = sign) ∧
    ∀ index < 32, 8 ≤ index → (deviceMinor dev).getLsbD index = sign

/--
The major number has twelve bits and the minor number eight, or both are so
large that they are short as negative numbers.
-/
def Encodable (dev : DeviceNumber) : Prop :=
  (deviceMajor dev).toNat < 2 ^ 12 ∧ (deviceMinor dev).toNat < 2 ^ 8 ∨
    2 ^ 32 - 2 ^ 12 ≤ (deviceMajor dev).toNat ∧
      2 ^ 32 - 2 ^ 8 ≤ (deviceMinor dev).toNat

theorem encodable_iff_hasSign (dev : DeviceNumber) :
    Encodable dev ↔ ∃ sign, HasSign dev sign := by
  rw [Bool.exists_bool, Encodable, toNat_lt_two_pow_iff,
    toNat_lt_two_pow_iff, two_pow_sub_le_toNat_iff,
    two_pow_sub_le_toNat_iff]
  rfl

theorem keepsNumber_iff_hasSign (privileged : Bool) (st : Stat)
    (permission : BitVec 32) :
    KeepsNumber st (makeNode privileged st permission) ↔
      ∃ sign, HasSign st.rdev sign := by
  rw [KeepsNumber, BitVec.eq_of_getLsbD_eq_iff,
    BitVec.eq_of_getLsbD_eq_iff]
  constructor
  · rintro ⟨majorKept, minorKept⟩
    have majorSign : ∀ index < 32, 12 ≤ index →
        (deviceMajor st.rdev).getLsbD index =
          (deviceMajor st.rdev).getLsbD 23 := by
      intro index inside reached
      have kept := majorKept index inside
      rw [getLsbD_deviceMajor_makeNode _ _ _ inside,
        if_neg (Nat.not_lt.mpr reached)] at kept
      exact kept.symm
    refine ⟨(deviceMajor st.rdev).getLsbD 23, majorSign, ?_⟩
    intro index inside reached
    have kept := minorKept index inside
    rw [getLsbD_deviceMinor_makeNode _ _ _ inside,
      if_neg (Nat.not_lt.mpr reached)] at kept
    rw [← kept]
    exact majorSign _ (by omega) (by omega)
  · rintro ⟨sign, majorSign, minorSign⟩
    constructor
    · intro index inside
      rw [getLsbD_deviceMajor_makeNode _ _ _ inside]
      split
      · rfl
      · rename_i high
        rw [majorSign 23 (by omega) (by omega),
          majorSign index inside (Nat.le_of_not_lt high)]
    · intro index inside
      rw [getLsbD_deviceMinor_makeNode _ _ _ inside]
      split
      · rfl
      · rename_i high
        rw [majorSign _ (by omega) (by omega),
          minorSign index inside (Nat.le_of_not_lt high)]

/-- A node is the device if the number is one that can be encoded. -/
theorem makeNode_keepsNumber_iff (privileged : Bool) (st : Stat)
    (permission : BitVec 32) :
    KeepsNumber st (makeNode privileged st permission) ↔
      Encodable st.rdev := by
  rw [keepsNumber_iff_hasSign, encodable_iff_hasSign]

/-- A character device `1:256` with the permission `0666`. -/
def largeMinor : Stat :=
  { mode := 0o020666, uid := 0, gid := 0, rdev := 0x100100 }

/-- The node of the device `1:256` is one of the device `1:0`. -/
theorem largeMinor_number_lost :
    deviceMajor largeMinor.rdev = 1 ∧ deviceMinor largeMinor.rdev = 256 ∧
      (makeNode false largeMinor 0o666).number = 0x100 ∧
      ¬KeepsNumber largeMinor (makeNode false largeMinor 0o666) := by
  decide

/-! ## The mode of the node -/

/-- The bits `S_IFMT` for the type of a file. -/
def fileType : BitVec 32 := 0o170000

/-- The bits `S_ISUID`, `S_ISGID` and `S_ISVTX`. -/
def specialBits : BitVec 32 := 0o7000

def permissionBits : BitVec 32 := 0o777

/--
The node is a file of the same type with the permission that was asked for, and
without any special bit or bit of the type that the device does not have.
-/
def ModeContained (st : Stat) (permission : BitVec 32) (node : Node) :
    Prop :=
  node.mode &&& fileType = st.mode &&& fileType ∧
    node.mode &&& permissionBits = permission &&& permissionBits ∧
    (fileType ||| specialBits) &&& node.mode &&& ~~~st.mode = 0

instance (st : Stat) (permission : BitVec 32) (node : Node) :
    Decidable (ModeContained st permission node) :=
  inferInstanceAs (Decidable (_ ∧ _ ∧ _))

/-- The bits that a request sets besides the permission bits. -/
def foreignBits : BitVec 32 := 0o176000

/--
The permission has no bit for the type, the user or the group that the device
does not have.  The bit for sticky files is cleared.
-/
def PermissionContained (st : Stat) (permission : BitVec 32) : Prop :=
  foreignBits &&& permission &&& ~~~st.mode = 0

section Modes

variable {index : Nat}

theorem getLsbD_nodeMode (stMode permission : BitVec 32)
    (inside : index < 32) :
    (nodeMode stMode permission).getLsbD index =
      if index < 9 then permission.getLsbD index
      else stMode.getLsbD index ||
        decide (10 ≤ index) && permission.getLsbD index := by
  have sticky : (1#32 <<< 9) = field 32 9 10 := by decide
  simp only [nodeMode, sticky, BitVec.getLsbD_or, BitVec.getLsbD_and,
    BitVec.getLsbD_not, BitVec.getLsbD_shiftLeft,
    BitVec.getLsbD_ushiftRight, getLsbD_field inside, inside]
  by_cases low : index < 9
  · simp [low, Nat.not_le.mpr low]
  · have place : 9 + (index - 9) = index := by omega
    have high : 9 ≤ index := Nat.le_of_not_lt low
    by_cases above : 10 ≤ index
    · simp [low, high, above, place, Nat.not_lt.mpr above]
    · simp [low, high, above, place, Nat.lt_of_not_le above]

theorem nodeMode_permission (stMode permission : BitVec 32) :
    nodeMode stMode permission &&& permissionBits =
      permission &&& permissionBits := by
  have bits : permissionBits = field 32 0 9 := by decide
  apply BitVec.eq_of_getLsbD_eq
  intro index inside
  rw [BitVec.getLsbD_and, BitVec.getLsbD_and,
    getLsbD_nodeMode _ _ inside, bits, getLsbD_field inside]
  by_cases low : index < 9
  · rw [if_pos low]
  · simp [low]

/-- The foreign bits of the node are those of the permission. -/
theorem foreign_nodeMode (stMode permission : BitVec 32) :
    (fileType ||| specialBits) &&& nodeMode stMode permission &&&
        ~~~stMode =
      foreignBits &&& permission &&& ~~~stMode := by
  have allBits : fileType ||| specialBits = field 32 9 16 := by decide
  have someBits : foreignBits = field 32 10 16 := by decide
  apply BitVec.eq_of_getLsbD_eq
  intro index inside
  rw [allBits, someBits, BitVec.getLsbD_and, BitVec.getLsbD_and,
    BitVec.getLsbD_and, BitVec.getLsbD_and, BitVec.getLsbD_not,
    getLsbD_nodeMode _ _ inside, getLsbD_field inside, getLsbD_field inside]
  by_cases low : index < 9
  · have lower : ¬10 ≤ index := by omega
    simp [Nat.not_le.mpr low, lower]
  · rw [if_neg low]
    cases stMode.getLsbD index with
    | true => simp
    | false =>
        by_cases above : 10 ≤ index
        · have reached : 9 ≤ index := by omega
          simp [above, reached]
        · simp [above]

/-- Without foreign bits the type of the file stays. -/
theorem nodeMode_fileType {stMode permission : BitVec 32}
    (contained : foreignBits &&& permission &&& ~~~stMode = 0) :
    nodeMode stMode permission &&& fileType = stMode &&& fileType := by
  have bits : fileType = field 32 12 16 := by decide
  have foreign : foreignBits = field 32 10 16 := by decide
  rw [and_eq_zero_iff] at contained
  apply BitVec.eq_of_getLsbD_eq
  intro index inside
  rw [BitVec.getLsbD_and, BitVec.getLsbD_and,
    getLsbD_nodeMode _ _ inside, bits, getLsbD_field inside]
  by_cases typeBit : 12 ≤ index ∧ index < 16
  · have own := contained index inside
    have high : ¬index < 9 := by omega
    have above : 10 ≤ index := by omega
    rw [BitVec.getLsbD_and, BitVec.getLsbD_not, foreign,
      getLsbD_field inside] at own
    rw [if_neg high]
    cases asked : permission.getLsbD index with
    | false => simp
    | true =>
        rw [asked] at own
        have present : stMode.getLsbD index = true := by
          simpa [above, typeBit.2, inside] using own
        simp [present]
  · rw [← Bool.decide_and, decide_eq_false typeBit, Bool.and_false,
      Bool.and_false]

end Modes

/-- The mode is contained if the permission is. -/
theorem makeNode_modeContained_iff (privileged : Bool) (st : Stat)
    (permission : BitVec 32) :
    ModeContained st permission (makeNode privileged st permission) ↔
      PermissionContained st permission := by
  change nodeMode st.mode permission &&& fileType = _ ∧
    nodeMode st.mode permission &&& permissionBits = _ ∧
    (fileType ||| specialBits) &&& nodeMode st.mode permission &&&
      ~~~st.mode = 0 ↔ _
  rw [foreign_nodeMode]
  constructor
  · rintro ⟨-, -, contained⟩
    exact contained
  · intro contained
    exact ⟨nodeMode_fileType contained, nodeMode_permission _ _, contained⟩

/-- A character device `1:3` with the permission `0666`. -/
def plainDevice : Stat :=
  { mode := 0o020666, uid := 0, gid := 0, rdev := 0x103 }

/-- The node gets a bit for the user that the device does not have. -/
theorem plainDevice_gets_setUid :
    (makeNode false plainDevice 0o4666).mode = 0o024666 ∧
      ¬ModeContained plainDevice 0o4666
        (makeNode false plainDevice 0o4666) := by
  decide

end Anbox.Lxc.DeviceNodes
