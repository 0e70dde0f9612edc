import SmartHome.Groups.Service

/-! # Joining a group

What a request that adds a device to a group reports, over a database that enforces the unique pair and both
foreign keys at the flush and does not fail otherwise. -/

namespace SmartHome.Groups
open Tables

namespace GroupTables

/-- The group is in its table. -/
def hasGroup (t : GroupTables) (groupId : Uuid) : Prop := ∃ group ∈ t.groups, group.id = groupId

/-- The device is a member of the group. -/
def isMember (t : GroupTables) (groupId deviceId : Uuid) : Prop :=
  ∃ member ∈ t.members, member.groupId = groupId ∧ member.deviceId = deviceId

/-- The id of a new row is on no row yet. -/
def isFresh (t : GroupTables) (id : Uuid) : Prop := ∀ member ∈ t.members, member.id ≠ id

instance (t : GroupTables) (groupId : Uuid) : Decidable (t.hasGroup groupId) :=
  inferInstanceAs (Decidable (∃ _ ∈ _, _))

instance (t : GroupTables) (groupId deviceId : Uuid) : Decidable (t.isMember groupId deviceId) :=
  inferInstanceAs (Decidable (∃ _ ∈ _, _))

instance (t : GroupTables) (id : Uuid) : Decidable (t.isFresh id) := inferInstanceAs (Decidable (∀ _ ∈ _, _))

end GroupTables

/-- `POST /groups/{group_id}/members`, with the `uuid4()` of the new membership. -/
structure AddMemberCall where
  id : Uuid
  groupId : Uuid
  deviceId : Uuid
  displayOrder : Int := 0

namespace AddMemberCall

/-- The request of the call. -/
def request (c : AddMemberCall) : GroupRequest := .addMember c.id c.groupId c.deviceId c.displayOrder

/-- The request when no call of the database fails. -/
def run (devices : Uuid → Bool) (currentUser : Uuid) (c : AddMemberCall) : Py GroupTables (Option DeviceGroupRead) :=
  c.request.handle (fun _ => none) devices currentUser

/-- The row that the call adds. -/
def member (c : AddMemberCall) : DeviceGroupMember :=
  { id := c.id, groupId := c.groupId, deviceId := c.deviceId, displayOrder := c.displayOrder }

/-- The request succeeds for a pair that can be joined, and otherwise tells why it cannot. -/
structure Reports (devices : Uuid → Bool) (currentUser : Uuid) (c : AddMemberCall) (s : GroupTables) : Prop where
  succeeds : (∃ reply t, c.run devices currentUser s = (.ok reply, t)) ↔
    s.hasGroup c.groupId ∧ devices c.deviceId = true ∧ ¬ s.isMember c.groupId c.deviceId
  grows : ∀ reply t, c.run devices currentUser s = (.ok reply, t) → t = { s with members := s.members ++ [c.member] }
  conflict : (∃ detail t, c.run devices currentUser s = (.error (.app (.conflict detail)), t)) ↔
    s.hasGroup c.groupId ∧ devices c.deviceId = true ∧ s.isMember c.groupId c.deviceId
  notFound : ¬ s.hasGroup c.groupId ∨ devices c.deviceId = false →
    ∃ detail t, c.run devices currentUser s = (.error (.app (.notFound detail)), t)
  /-- Also when a call of the database fails. -/
  unchanged : ∀ fails e t, c.request.handle fails devices currentUser s = (.error e, t) → t = s

/-! ## What the request does -/

section
variable {devices : Uuid → Bool} {currentUser : Uuid} {c : AddMemberCall} {s : GroupTables}

theorem find?_group : (s.groups.find? fun group => group.id == c.groupId).isSome = true ↔ s.hasGroup c.groupId := by
  rw [List.find?_isSome]
  simp only [beq_iff_eq, GroupTables.hasGroup]

theorem run_of_unknown_group (h : ¬ s.hasGroup c.groupId) :
    c.run devices currentUser s =
      (.error (.app (.notFound s!"Group {Uuid.text c.groupId} not found.")), s) := by
  have hnone : s.groups.find? (fun group => group.id == c.groupId) = none := by
    rw [← Option.not_isSome_iff_eq_none, find?_group]
    exact h
  simp [run, request, GroupRequest.handle, transaction, DeviceGroupService.addDeviceToGroup, DeviceGroupService.getGroup,
    DeviceGroupRepository.getById, call, Eff.bind_run, hnone]

/-- The row satisfies the type of its column and the constraints of the table. -/
def Admissible (devices : Uuid → Bool) (c : AddMemberCall) (s : GroupTables) : Prop :=
  devices c.deviceId = true ∧ ¬ s.isMember c.groupId c.deviceId ∧ isInteger c.displayOrder = true ∧ s.isFresh c.id

theorem refused_iff (h : s.hasGroup c.groupId) :
    (!(s.groups.any fun group => group.id == c.member.groupId) || !devices c.member.deviceId ||
      s.members.any fun other =>
        other.id == c.member.id || (other.groupId == c.member.groupId && other.deviceId == c.member.deviceId)) =
        false ↔ devices c.deviceId = true ∧ ¬ s.isMember c.groupId c.deviceId ∧ s.isFresh c.id := by
  have hany : s.groups.any (fun group => group.id == c.member.groupId) = true := by
    rw [List.any_eq_true]
    simpa [GroupTables.hasGroup, member] using h
  simp only [hany, Bool.not_true, Bool.false_or, Bool.or_eq_false_iff, Bool.not_eq_false', List.any_eq_false,
    Bool.or_eq_true, beq_iff_eq, Bool.and_eq_true, not_or, GroupTables.isMember, GroupTables.isFresh, not_exists]
  constructor
  · rintro ⟨hdevice, hrows⟩
    exact ⟨hdevice, fun member hmember => (hrows member hmember.1).2 hmember.2, fun member hmember =>
      (hrows member hmember).1⟩
  · rintro ⟨hdevice, hpair, hfresh⟩
    exact ⟨hdevice, fun member hmember => ⟨hfresh member hmember, fun heq => hpair member ⟨hmember, heq⟩⟩⟩

theorem addMember_of_admissible (h : s.hasGroup c.groupId) (hrow : c.Admissible devices s) :
    DeviceGroupRepository.addMember (fun _ => none) devices c.member s =
      (.ok (), { s with members := s.members ++ [c.member] }) := by
  obtain ⟨hdevice, hpair, hinteger, hfresh⟩ := hrow
  have hfits : isInteger c.member.displayOrder = true := hinteger
  have hrefused := (refused_iff h).mpr ⟨hdevice, hpair, hfresh⟩
  simp [DeviceGroupRepository.addMember, call, hfits, hrefused]

theorem addMember_of_not_admissible (h : s.hasGroup c.groupId) (hrow : ¬ c.Admissible devices s) :
    ∃ e, DeviceGroupRepository.addMember (fun _ => none) devices c.member s = (.error e, s) := by
  by_cases hfits : isInteger c.member.displayOrder = true
  · have hrefused := mt (refused_iff h).mp fun hall => hrow ⟨hall.1, hall.2.1, hfits, hall.2.2⟩
    rw [Bool.not_eq_false] at hrefused
    refine ⟨.integrityError, ?_⟩
    simp only [DeviceGroupRepository.addMember, call, Eff.pure_bind_run, Eff.gets_bind_run, hfits, hrefused]
    rfl
  · rw [Bool.not_eq_true] at hfits
    refine ⟨.external, ?_⟩
    simp only [DeviceGroupRepository.addMember, call, Eff.pure_bind_run, Eff.gets_bind_run, hfits]
    rfl

theorem getGroup_of_group (h : s.hasGroup c.groupId) :
    ∃ group, DeviceGroupService.getGroup (fun _ => none) c.groupId s = (.ok group, s) := by
  obtain ⟨group, hgroup⟩ := Option.isSome_iff_exists.mp (find?_group.mpr h)
  refine ⟨group, ?_⟩
  simp [DeviceGroupService.getGroup, DeviceGroupRepository.getById, call, Eff.bind_run, hgroup]

theorem run_of_admissible (h : s.hasGroup c.groupId) (hrow : c.Admissible devices s) :
    c.run devices currentUser s = (.ok none, { s with members := s.members ++ [c.member] }) := by
  obtain ⟨group, hfound⟩ := getGroup_of_group h
  have hadd : DeviceGroupService.addDeviceToGroup (fun _ => none) devices c.id c.groupId c.deviceId c.displayOrder s =
      (.ok (), { s with members := s.members ++ [c.member] }) := by
    rw [DeviceGroupService.addDeviceToGroup, Eff.bind_of_ok hfound]
    exact Eff.attempt_of_ok (addMember_of_admissible h hrow)
  simp [run, request, GroupRequest.handle, transaction, Eff.bind_run, hadd, call]

/-- In a known group, whatever the flush raises becomes a conflict. -/
theorem run_of_not_admissible (h : s.hasGroup c.groupId) (hrow : ¬ c.Admissible devices s) :
    c.run devices currentUser s = (.error (.app (.conflict "Device is already in this group.")), s) := by
  obtain ⟨group, hfound⟩ := getGroup_of_group h
  obtain ⟨e, he⟩ := addMember_of_not_admissible h hrow
  have hadd : DeviceGroupService.addDeviceToGroup (fun _ => none) devices c.id c.groupId c.deviceId c.displayOrder s =
      (.error (.app (.conflict "Device is already in this group.")), s) := by
    rw [DeviceGroupService.addDeviceToGroup, Eff.bind_of_ok hfound]
    exact Eff.attempt_of_error he
  simp [run, request, GroupRequest.handle, transaction, Eff.bind_run, hadd]

/-! ## What it reports -/

theorem reports_of_error {e : AppError} (hrun : c.run devices currentUser s = (.error (.app e), s))
    (hrefused : ¬ (s.hasGroup c.groupId ∧ devices c.deviceId = true ∧ ¬ s.isMember c.groupId c.deviceId))
    (hconflict : (∃ detail, e = .conflict detail) ↔
      s.hasGroup c.groupId ∧ devices c.deviceId = true ∧ s.isMember c.groupId c.deviceId)
    (hnotFound : ¬ s.hasGroup c.groupId ∨ devices c.deviceId = false → ∃ detail, e = .notFound detail) :
    c.Reports devices currentUser s := by
  constructor
  · refine iff_of_false ?_ hrefused
    rintro ⟨reply, t, heq⟩
    rw [hrun] at heq
    cases heq
  · intro reply t heq
    rw [hrun] at heq
    cases heq
  · rw [← hconflict]
    constructor
    · rintro ⟨detail, t, heq⟩
      rw [hrun] at heq
      cases heq
      exact ⟨detail, rfl⟩
    · rintro ⟨detail, rfl⟩
      exact ⟨detail, s, hrun⟩
  · intro hunknown
    obtain ⟨detail, rfl⟩ := hnotFound hunknown
    exact ⟨detail, s, hrun⟩
  · exact fun _ _ _ => GroupRequest.handle_of_error

theorem reports_of_unknown_group (h : ¬ s.hasGroup c.groupId) : c.Reports devices currentUser s := by
  refine reports_of_error (run_of_unknown_group h) (fun hall => h hall.1) ?_ fun _ => ⟨_, rfl⟩
  refine iff_of_false ?_ fun hall => h hall.1
  rintro ⟨detail, heq⟩
  cases heq

theorem reports_of_member (h : s.hasGroup c.groupId) (hdevice : devices c.deviceId = true)
    (hmember : s.isMember c.groupId c.deviceId) : c.Reports devices currentUser s := by
  have hrun := @run_of_not_admissible devices currentUser c s h fun hrow => hrow.2.1 hmember
  refine reports_of_error hrun (fun hall => hall.2.2 hmember) (iff_of_true ⟨_, rfl⟩ ⟨h, hdevice, hmember⟩) ?_
  rintro (hunknown | hunknown)
  · exact absurd h hunknown
  · rw [hdevice] at hunknown
    cases hunknown

theorem reports_of_admissible (h : s.hasGroup c.groupId) (hrow : c.Admissible devices s) :
    c.Reports devices currentUser s := by
  have hrun := @run_of_admissible devices currentUser c s h hrow
  obtain ⟨hdevice, hpair, -, -⟩ := hrow
  constructor
  · exact iff_of_true ⟨_, _, hrun⟩ ⟨h, hdevice, hpair⟩
  · intro reply t heq
    rw [hrun] at heq
    cases heq
    rfl
  · refine iff_of_false ?_ fun hall => hpair hall.2.2
    rintro ⟨detail, t, heq⟩
    rw [hrun] at heq
    cases heq
  · rintro (hunknown | hunknown)
    · exact absurd h hunknown
    · rw [hdevice] at hunknown
      cases hunknown
  · exact fun _ _ _ => GroupRequest.handle_of_error

/-- The report is right exactly where the group is unknown, or the device is known and the pair is a member already
    or the new row fits its columns. -/
theorem reports_iff (devices : Uuid → Bool) (currentUser : Uuid) (c : AddMemberCall) (s : GroupTables) :
    c.Reports devices currentUser s ↔
      (s.hasGroup c.groupId → devices c.deviceId = true ∧
        (s.isMember c.groupId c.deviceId ∨ isInteger c.displayOrder = true ∧ s.isFresh c.id)) := by
  constructor
  · intro h hgroup
    by_cases hrow : c.Admissible devices s
    · exact ⟨hrow.1, .inr hrow.2.2⟩
    · have hrun := @run_of_not_admissible devices currentUser c s hgroup hrow
      obtain ⟨-, hdevice, hmember⟩ := h.conflict.mp ⟨_, _, hrun⟩
      exact ⟨hdevice, .inl hmember⟩
  · intro h
    by_cases hgroup : s.hasGroup c.groupId
    · obtain ⟨hdevice, hrow⟩ := h hgroup
      by_cases hmember : s.isMember c.groupId c.deviceId
      · exact reports_of_member hgroup hdevice hmember
      · exact reports_of_admissible hgroup ⟨hdevice, hmember, hrow.resolve_left hmember⟩
    · exact reports_of_unknown_group hgroup

/-- A living room with no devices. -/
def livingRoom : GroupTables := { groups := [{ id := 1, name := "Wohnzimmer" }] }

/-- A device that does not exist is reported as a member already. -/
theorem unknown_device_conflict :
    ¬ ∀ (devices : Uuid → Bool) (currentUser : Uuid) (c : AddMemberCall) (s : GroupTables),
      c.Reports devices currentUser s := by
  intro h
  have hreports := h (fun _ => false) 7 { id := 3, groupId := 1, deviceId := 2 } livingRoom
  obtain ⟨detail, t, hrun⟩ := hreports.notFound (.inr rfl)
  have hgroup : livingRoom.hasGroup 1 := by decide
  rw [run_of_not_admissible hgroup fun hrow => absurd hrow.1 Bool.false_ne_true] at hrun
  cases hrun

end

end AddMemberCall
end SmartHome.Groups
