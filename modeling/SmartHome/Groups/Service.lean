import SmartHome.Exceptions
import SmartHome.Lib.Tables

/-! # Groups of devices

`DeviceGroupRepository`, `DeviceGroupService` and the handlers that write (`app/groups/repository.py`,
`app/groups/service.py`, `app/api/v1/groups.py`). -/

namespace SmartHome.Groups
open Tables

/-- A row of `device_groups`. -/
structure DeviceGroup where
  id : Uuid
  name : String
  icon : Option String := none
  color : Option String := none
  displayOrder : Int := 0
  createdBy : Option Uuid := none
  deriving DecidableEq, Repr

/-- A row of `device_group_members`. -/
structure DeviceGroupMember where
  id : Uuid
  groupId : Uuid
  deviceId : Uuid
  displayOrder : Int := 0
  deriving DecidableEq, Repr

/-- The two tables. -/
structure GroupTables where
  groups : List DeviceGroup := []
  members : List DeviceGroupMember := []
  deriving DecidableEq, Repr

/-- The body that creates a group. -/
structure DeviceGroupCreate where
  name : String
  icon : Option String := none
  color : Option String := none
  displayOrder : Int := 0

/-- `none` leaves the column alone. -/
structure DeviceGroupUpdate where
  name : Option String := none
  icon : Option String := none
  color : Option String := none
  displayOrder : Option Int := none

/-- A group as it is answered, with its members. -/
structure DeviceGroupRead extends DeviceGroup where
  members : List DeviceGroupMember
  deriving DecidableEq, Repr

/-- The group after the update; what is not given stays. -/
def DeviceGroupUpdate.apply (data : DeviceGroupUpdate) (group : DeviceGroup) : DeviceGroup :=
  { group with
    name := data.name.getD group.name
    icon := data.icon.or group.icon
    color := data.color.or group.color
    displayOrder := data.displayOrder.getD group.displayOrder }

/-- An INTEGER of the database has 32 bits. -/
def isInteger (z : Int) : Bool := -2 ^ 31 ≤ z && z < 2 ^ 31

/-- The columns can hold the group. -/
def DeviceGroup.fits (group : DeviceGroup) : Bool :=
  group.name.length ≤ 255 && (group.icon.all fun icon => icon.length ≤ 64) &&
    (group.color.all fun color => color.length ≤ 7) && isInteger group.displayOrder

variable (fails : DbCall → Option PyError)

/-! ## `DeviceGroupRepository` -/

namespace DeviceGroupRepository

/-- `DeviceGroupRepository.get_by_id`. -/
def getById (groupId : Uuid) : Py GroupTables (Option DeviceGroup) := do
  call fails .select
  Eff.gets fun t => t.groups.find? fun group => group.id == groupId

/-- The group with its members, as they are read back. -/
def refreshMembers (group : DeviceGroup) : Py GroupTables DeviceGroupRead := do
  call fails .refresh
  let members ← Eff.gets fun t => t.members.filter fun member => member.groupId == group.id
  pure { toDeviceGroup := group, members := members.mergeSort fun a b => a.displayOrder ≤ b.displayOrder }

/-- `DeviceGroupRepository.create`. -/
def create (group : DeviceGroup) : Py GroupTables DeviceGroupRead := do
  call fails .flush
  let taken ← Eff.gets fun t => t.groups.any fun other => other.id == group.id
  (if !group.fits then Eff.raise .external
  else if taken then Eff.raise .integrityError
  else Eff.modify fun t => { t with groups := t.groups ++ [group] })
  refreshMembers fails group

/-- The UPDATE of an object that was loaded; nothing is sent when it has not changed. -/
def update (loaded group : DeviceGroup) : Py GroupTables DeviceGroupRead := do
  (if group = loaded then pure ()
  else do
    call fails .flush
    let found ← Eff.gets fun t => t.groups.any fun other => other.id == group.id
    if !group.fits then Eff.raise .external
    else if !found then Eff.raise .staleData
    else Eff.modify fun t =>
      { t with groups := t.groups.map fun other => if other.id == group.id then group else other })
  refreshMembers fails group

/-- The members of the group go with it. -/
def delete (group : DeviceGroup) : Py GroupTables Unit := do
  call fails .flush
  Eff.modify fun t =>
    { groups := t.groups.filter fun other => other.id != group.id
      members := t.members.filter fun member => member.groupId != group.id }

/-- Group and device have to exist, and the pair is unique; `devices` tells which devices there are. -/
def addMember (devices : Uuid → Bool) (member : DeviceGroupMember) : Py GroupTables Unit := do
  call fails .flush
  let refused ← Eff.gets fun t =>
    !(t.groups.any fun group => group.id == member.groupId) || !devices member.deviceId ||
      t.members.any fun other =>
        other.id == member.id || (other.groupId == member.groupId && other.deviceId == member.deviceId)
  if !isInteger member.displayOrder then Eff.raise .external
  else if refused then Eff.raise .integrityError
  else Eff.modify fun t => { t with members := t.members ++ [member] }

/-- `DeviceGroupRepository.remove_member`: whether there was such a member. -/
def removeMember (groupId deviceId : Uuid) : Py GroupTables Bool := do
  call fails .select
  let found ← Eff.gets fun t =>
    t.members.filter fun member => member.groupId == groupId && member.deviceId == deviceId
  match found with
  | [] => pure false
  | [member] => do
    call fails .flush
    Eff.modify fun t => { t with members := t.members.filter fun other => other.id != member.id }
    pure true
  | _ => Eff.raise .invalidRequest

end DeviceGroupRepository

/-! ## `DeviceGroupService` -/

namespace DeviceGroupService

/-- `DeviceGroupService.get_group`. -/
def getGroup (groupId : Uuid) : Py GroupTables DeviceGroup := do
  match ← DeviceGroupRepository.getById fails groupId with
  | some group => pure group
  | none => Eff.raise (.app (.notFound s!"Group {Uuid.text groupId} not found."))

/-- `id` is the new `uuid4()`. -/
def createGroup (id : Uuid) (data : DeviceGroupCreate) (createdBy : Option Uuid) : Py GroupTables DeviceGroupRead :=
  DeviceGroupRepository.create fails
    { id, name := data.name, icon := data.icon, color := data.color, displayOrder := data.displayOrder, createdBy }

/-- `DeviceGroupService.update_group`. -/
def updateGroup (groupId : Uuid) (data : DeviceGroupUpdate) : Py GroupTables DeviceGroupRead := do
  let group ← getGroup fails groupId
  DeviceGroupRepository.update fails group (data.apply group)

/-- `DeviceGroupService.delete_group`. -/
def deleteGroup (groupId : Uuid) : Py GroupTables Unit := do
  let group ← getGroup fails groupId
  DeviceGroupRepository.delete fails group

/-- Whatever the insertion raises becomes a conflict. -/
def addDeviceToGroup (devices : Uuid → Bool) (id groupId deviceId : Uuid) (displayOrder : Int) :
    Py GroupTables Unit := do
  let _ ← getGroup fails groupId
  (DeviceGroupRepository.addMember fails devices { id, groupId, deviceId, displayOrder }).attempt fun _ =>
    Eff.raise (.app (.conflict "Device is already in this group."))

/-- `DeviceGroupService.remove_device_from_group`. -/
def removeDeviceFromGroup (groupId deviceId : Uuid) : Py GroupTables Unit := do
  let removed ← DeviceGroupRepository.removeMember fails groupId deviceId
  if !removed then Eff.raise (.app (.notFound "Device not found in this group.")) else pure ()

end DeviceGroupService

/-! ## Requests -/

/-- A request that writes, with the new `uuid4()` of what it creates. -/
inductive GroupRequest where
  | create (id : Uuid) (data : DeviceGroupCreate)
  | update (groupId : Uuid) (data : DeviceGroupUpdate)
  | delete (groupId : Uuid)
  | addMember (id groupId deviceId : Uuid) (displayOrder : Int)
  | removeMember (groupId deviceId : Uuid)

namespace GroupRequest

/-- The handler in its session; `currentUser` has sent the request. -/
def handle (devices : Uuid → Bool) (currentUser : Uuid) : GroupRequest → Py GroupTables (Option DeviceGroupRead)
  | create id data => transaction fails do
    let group ← DeviceGroupService.createGroup fails id data (some currentUser)
    pure (some group)
  | update groupId data => transaction fails do
    let group ← DeviceGroupService.updateGroup fails groupId data
    pure (some group)
  | delete groupId => transaction fails do
    DeviceGroupService.deleteGroup fails groupId
    pure none
  | addMember id groupId deviceId displayOrder => transaction fails do
    DeviceGroupService.addDeviceToGroup fails devices id groupId deviceId displayOrder
    pure none
  | removeMember groupId deviceId => transaction fails do
    DeviceGroupService.removeDeviceFromGroup fails groupId deviceId
    pure none

variable {fails}

/-- A request that raises leaves the tables as they were. -/
theorem handle_of_error {devices : Uuid → Bool} {currentUser : Uuid} {r : GroupRequest} {s t : GroupTables} {e : PyError}
    (h : r.handle fails devices currentUser s = (.error e, t)) : t = s := by
  cases r <;> exact transaction_of_error h

end GroupRequest
end SmartHome.Groups
