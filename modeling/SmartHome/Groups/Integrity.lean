import SmartHome.Groups.Service
import SmartHome.Lib.Keyed

/-! # The tables of groups stay consistent

What a request makes of the two tables when it is served, and what follows for the keys and the references
(`app/groups/models.py`, `migrations/versions/0006_groups_favorites.py`). -/

namespace SmartHome.Groups
open Tables Keyed

variable {fails : DbCall → Option PyError} {devices : Uuid → Bool} {s t : GroupTables}

/-! ## What a request makes of the tables -/

/-- The row `other` after the UPDATE that writes `group`. -/
def DeviceGroup.over (group other : DeviceGroup) : DeviceGroup := if other.id == group.id then group else other

/-- The tables before and after a request that is served. -/
def GroupRequest.Effect (devices : Uuid → Bool) : GroupRequest → GroupTables → GroupTables → Prop
  | create id _, s, t => ∃ group : DeviceGroup, group.id = id ∧ (∀ other ∈ s.groups, other.id ≠ group.id) ∧
    t = { s with groups := s.groups ++ [group] }
  | update groupId data, s, t => (∃ group ∈ s.groups, group.id = groupId) ∧
    (t = s ∨ ∃ group ∈ s.groups, group.id = groupId ∧ t = { s with groups := s.groups.map (data.apply group).over })
  | delete groupId, s, t => (∃ group ∈ s.groups, group.id = groupId) ∧
    t = { groups := s.groups.filter fun other => other.id != groupId
          members := s.members.filter fun member => member.groupId != groupId }
  | addMember id groupId deviceId displayOrder, s, t => (∃ group ∈ s.groups, group.id = groupId) ∧
    devices deviceId = true ∧
    (∀ other ∈ s.members, other.id ≠ id ∧ (other.groupId, other.deviceId) ≠ (groupId, deviceId)) ∧
    t = { s with members := s.members ++ [{ id, groupId, deviceId, displayOrder }] }
  | removeMember groupId deviceId, s, t => ∃ member ∈ s.members, member.groupId = groupId ∧ member.deviceId = deviceId ∧
    t = { s with members := s.members.filter fun other => other.id != member.id }

theorem DeviceGroup.over_id (group other : DeviceGroup) : (group.over other).id = other.id := by
  unfold DeviceGroup.over
  split
  · next hid => exact (beq_iff_eq.mp hid).symm
  · rfl

namespace DeviceGroupRepository

theorem refreshMembers_ok {group : DeviceGroup} {read : DeviceGroupRead} (h : refreshMembers fails group s = (.ok read, t)) :
    t = s := by
  obtain ⟨_, u, hcall, hrest⟩ := Eff.bind_eq_ok.mp h
  cases hrest
  exact call_ok hcall

theorem create_ok {group : DeviceGroup} {read : DeviceGroupRead} (h : create fails group s = (.ok read, t)) :
    (∀ other ∈ s.groups, other.id ≠ group.id) ∧ t = { s with groups := s.groups ++ [group] } := by
  obtain ⟨_, u, hcall, hrest⟩ := Eff.bind_eq_ok.mp h
  obtain rfl := call_ok hcall
  rw [Eff.gets_bind_run] at hrest
  obtain ⟨_, v, hinsert, hrefresh⟩ := Eff.bind_eq_ok.mp hrest
  split at hinsert
  · cases hinsert
  split at hinsert
  · cases hinsert
  next hfree =>
  cases hinsert
  rw [Bool.not_eq_true, List.any_eq_false] at hfree
  refine ⟨fun other hother hid => hfree other hother (beq_iff_eq.mpr hid), ?_⟩
  exact refreshMembers_ok hrefresh

theorem update_ok {loaded group : DeviceGroup} {read : DeviceGroupRead} (h : update fails loaded group s = (.ok read, t)) :
    t = s ∨ t = { s with groups := s.groups.map group.over } := by
  obtain ⟨_, u, hwrite, hrefresh⟩ := Eff.bind_eq_ok.mp h
  obtain rfl := refreshMembers_ok hrefresh
  split at hwrite
  · cases hwrite
    exact Or.inl rfl
  obtain ⟨_, v, hcall, hrest⟩ := Eff.bind_eq_ok.mp hwrite
  obtain rfl := call_ok hcall
  rw [Eff.gets_bind_run] at hrest
  split at hrest
  · cases hrest
  split at hrest
  · cases hrest
  · cases hrest
    exact Or.inr rfl

theorem addMember_ok {member : DeviceGroupMember} {u : Unit} (h : addMember fails devices member s = (.ok u, t)) :
    (∃ group ∈ s.groups, group.id = member.groupId) ∧ devices member.deviceId = true ∧
      (∀ other ∈ s.members, other.id ≠ member.id ∧
        (other.groupId, other.deviceId) ≠ (member.groupId, member.deviceId)) ∧
      t = { s with members := s.members ++ [member] } := by
  obtain ⟨_, v, hcall, hrest⟩ := Eff.bind_eq_ok.mp h
  obtain rfl := call_ok hcall
  rw [Eff.gets_bind_run] at hrest
  split at hrest
  · cases hrest
  split at hrest
  · cases hrest
  next haccepted =>
  cases hrest
  rw [Bool.not_eq_true, Bool.or_eq_false_iff, Bool.or_eq_false_iff, Bool.not_eq_false', Bool.not_eq_false',
    List.any_eq_true, List.any_eq_false] at haccepted
  obtain ⟨⟨⟨group, hgroup, hid⟩, hdevice⟩, hfree⟩ := haccepted
  refine ⟨⟨group, hgroup, beq_iff_eq.mp hid⟩, hdevice, fun other hother => ?_, rfl⟩
  have hother := hfree other hother
  rw [Bool.or_eq_true, Bool.and_eq_true, beq_iff_eq, beq_iff_eq, beq_iff_eq, not_or] at hother
  exact ⟨hother.1, fun hpair => hother.2 (Prod.mk.inj hpair)⟩

theorem removeMember_ok {groupId deviceId : Uuid} (h : removeMember fails groupId deviceId s = (.ok true, t)) :
    ∃ member ∈ s.members, member.groupId = groupId ∧ member.deviceId = deviceId ∧
      t = { s with members := s.members.filter fun other => other.id != member.id } := by
  obtain ⟨_, v, hcall, hrest⟩ := Eff.bind_eq_ok.mp h
  obtain rfl := call_ok hcall
  rw [Eff.gets_bind_run] at hrest
  rcases hfound : v.members.filter (fun member => member.groupId == groupId && member.deviceId == deviceId) with
    _ | ⟨member, _ | ⟨other, rest⟩⟩
  · simp only [hfound] at hrest
    cases hrest
  · simp only [hfound] at hrest
    obtain ⟨_, w, hflush, hdelete⟩ := Eff.bind_eq_ok.mp hrest
    obtain rfl := call_ok hflush
    cases hdelete
    have hmember : member ∈ w.members.filter fun member => member.groupId == groupId && member.deviceId == deviceId :=
      hfound ▸ List.mem_singleton_self member
    obtain ⟨hmem, hpair⟩ := List.mem_filter.mp hmember
    rw [Bool.and_eq_true, beq_iff_eq, beq_iff_eq] at hpair
    exact ⟨member, hmem, hpair.1, hpair.2, rfl⟩
  · simp only [hfound] at hrest
    cases hrest

end DeviceGroupRepository

theorem DeviceGroupService.getGroup_ok {groupId : Uuid} {group : DeviceGroup}
    (h : DeviceGroupService.getGroup fails groupId s = (.ok group, t)) : t = s ∧ group ∈ s.groups ∧ group.id = groupId := by
  obtain ⟨found, u, hget, hrest⟩ := Eff.bind_eq_ok.mp h
  obtain ⟨_, v, hcall, hfind⟩ := Eff.bind_eq_ok.mp hget
  obtain rfl := call_ok hcall
  cases hfind
  dsimp only at hrest
  cases hfound : u.groups.find? fun group => group.id == groupId with
  | none =>
    rw [hfound] at hrest
    cases hrest
  | some other =>
    rw [hfound] at hrest
    cases hrest
    exact ⟨rfl, List.mem_of_find?_eq_some hfound, by simpa using List.find?_some hfound⟩

namespace GroupRequest

/-- A request that is served has its effect. -/
theorem effect_of_ok {currentUser : Uuid} {r : GroupRequest} {reply : Option DeviceGroupRead}
    (h : r.handle fails devices currentUser s = (.ok reply, t)) : r.Effect devices s t := by
  cases r with
  | create id data =>
    obtain ⟨group, u, hcreate, hpure⟩ := Eff.bind_eq_ok.mp (transaction_ok h)
    cases hpure
    obtain ⟨hfree, htables⟩ := DeviceGroupRepository.create_ok hcreate
    exact ⟨_, rfl, hfree, htables⟩
  | update groupId data =>
    obtain ⟨group, u, hupdate, hpure⟩ := Eff.bind_eq_ok.mp (transaction_ok h)
    cases hpure
    obtain ⟨loaded, v, hget, hwrite⟩ := Eff.bind_eq_ok.mp hupdate
    obtain ⟨rfl, hmem, hid⟩ := DeviceGroupService.getGroup_ok hget
    refine ⟨⟨loaded, hmem, hid⟩, ?_⟩
    rcases DeviceGroupRepository.update_ok hwrite with hsame | htables
    · exact Or.inl hsame
    · exact Or.inr ⟨loaded, hmem, hid, htables⟩
  | delete groupId =>
    obtain ⟨_, u, hdelete, hpure⟩ := Eff.bind_eq_ok.mp (transaction_ok h)
    cases hpure
    obtain ⟨group, v, hget, hrest⟩ := Eff.bind_eq_ok.mp hdelete
    obtain ⟨rfl, hmem, rfl⟩ := DeviceGroupService.getGroup_ok hget
    obtain ⟨_, w, hflush, hmodify⟩ := Eff.bind_eq_ok.mp hrest
    obtain rfl := call_ok hflush
    cases hmodify
    exact ⟨⟨group, hmem, rfl⟩, rfl⟩
  | addMember id groupId deviceId displayOrder =>
    obtain ⟨_, u, hadd, hpure⟩ := Eff.bind_eq_ok.mp (transaction_ok h)
    cases hpure
    obtain ⟨group, v, hget, hrest⟩ := Eff.bind_eq_ok.mp hadd
    obtain ⟨rfl, -⟩ := DeviceGroupService.getGroup_ok hget
    rcases hinsert : DeviceGroupRepository.addMember fails devices { id, groupId, deviceId, displayOrder } v with ⟨e | _, w⟩
    · rw [Eff.attempt_of_error hinsert] at hrest
      cases hrest
    · rw [Eff.attempt_of_ok hinsert] at hrest
      cases hrest
      exact DeviceGroupRepository.addMember_ok hinsert
  | removeMember groupId deviceId =>
    obtain ⟨_, u, hremove, hpure⟩ := Eff.bind_eq_ok.mp (transaction_ok h)
    cases hpure
    obtain ⟨removed, v, hrun, hrest⟩ := Eff.bind_eq_ok.mp hremove
    cases removed with
    | false => cases hrest
    | true =>
      cases hrest
      exact DeviceGroupRepository.removeMember_ok hrun

/-- A request that is not served leaves the tables as they were. -/
theorem effect_or_same (currentUser : Uuid) (r : GroupRequest) :
    (r.handle fails devices currentUser s).2 = s ∨ r.Effect devices s (r.handle fails devices currentUser s).2 := by
  rcases hrun : r.handle fails devices currentUser s with ⟨e | reply, t⟩
  · exact Or.inl (handle_of_error hrun)
  · exact Or.inr (effect_of_ok hrun)

end GroupRequest

/-! ## Keys and references -/

/-- The keys are unique, and each membership is of a group and of a device that there are. -/
structure GroupTables.Intact {τ : Type} (deviceKey : τ → Uuid) (devices : List τ) (t : GroupTables) : Prop where
  groups : Unique DeviceGroup.id t.groups
  members : Unique DeviceGroupMember.id t.members
  pairs : Unique (fun member : DeviceGroupMember => (member.groupId, member.deviceId)) t.members
  group : Refers DeviceGroupMember.groupId t.members DeviceGroup.id t.groups
  device : Refers DeviceGroupMember.deviceId t.members deviceKey devices

theorem GroupTables.Intact.effect {τ : Type} {deviceKey : τ → Uuid} {rows : List τ} (h : s.Intact deviceKey rows)
    (hdevices : ∀ id, devices id = true → ∃ row ∈ rows, deviceKey row = id) {r : GroupRequest}
    (heffect : r.Effect devices s t) : t.Intact deviceKey rows := by
  cases r with
  | create id data =>
    obtain ⟨group, -, hfree, rfl⟩ := heffect
    exact { h with groups := h.groups.insert hfree, group := h.group.insertTarget group }
  | update groupId data =>
    obtain ⟨-, rfl | ⟨group, -, -, rfl⟩⟩ := heffect
    · exact h
    · exact { h with groups := h.groups.update (DeviceGroup.over_id _), group := h.group.updateTargets (DeviceGroup.over_id _) }
  | delete groupId =>
    obtain ⟨-, rfl⟩ := heffect
    exact ⟨h.groups.delete _, h.members.delete _, h.pairs.delete _, h.group.cascade groupId, h.device.delete _⟩
  | addMember id groupId deviceId displayOrder =>
    obtain ⟨hgroup, hdevice, hfree, rfl⟩ := heffect
    exact ⟨h.groups, h.members.insert fun other hother => (hfree other hother).1,
      h.pairs.insert fun other hother => (hfree other hother).2, h.group.insert hgroup,
      h.device.insert (hdevices deviceId hdevice)⟩
  | removeMember groupId deviceId =>
    obtain ⟨member, -, -, -, rfl⟩ := heffect
    exact ⟨h.groups, h.members.delete _, h.pairs.delete _, h.group.delete _, h.device.delete _⟩

end SmartHome.Groups
