import SmartHome.Api.Reorder
import SmartHome.House.Integrity

/-! # The devices on the dashboard

The component `deviceGrid` (`app/templates/dashboard/index.html`): the devices in their groups, and their order after
drag and drop. -/

namespace SmartHome.Ui
open Api Groups Keyed

/-- What the user chose above the devices. -/
inductive GroupFilter where
  | all
  | ungrouped
  | group (id : Uuid)
  deriving DecidableEq, Repr

/-- The data of the page. -/
structure DeviceGrid where
  devices : List Device := []
  groups : List DeviceGroupRead := []
  activeGroup : GroupFilter := .all

/-- The order of the answer stays among devices of the same `display_order`, which is never null. -/
def byOrder (devices : List Device) : List Device := devices.mergeSort fun a b => a.displayOrder ≤ b.displayOrder

namespace DeviceGrid

/-- `visibleGroups`. -/
def visibleGroups (g : DeviceGrid) : List DeviceGroupRead :=
  match g.activeGroup with
  | .all => g.groups
  | .ungrouped => []
  | .group id => g.groups.filter fun group => group.id == id

/-- `devicesInGroup`. -/
def devicesInGroup (g : DeviceGrid) (group : DeviceGroupRead) : List Device :=
  byOrder (g.devices.filter fun d => (group.members.map DeviceGroupMember.deviceId).contains d.id)

/-- The same, by the id of the group. -/
def devicesInGroupById (g : DeviceGrid) (groupId : Uuid) : List Device :=
  match g.groups.find? fun group => group.id == groupId with
  | none => []
  | some group => g.devicesInGroup group

/-- The devices of all groups. -/
def allMemberIds (g : DeviceGrid) : List Uuid :=
  g.groups.flatMap fun group => group.members.map DeviceGroupMember.deviceId

/-- `ungroupedDevices`. -/
def ungroupedDevices (g : DeviceGrid) : List Device := byOrder (g.devices.filter fun d => !g.allMemberIds.contains d.id)

/-- The lists of devices that the page renders as containers of cards, from the top. It is data: what `x-for` makes of it
    where a card has been dragged is not modelled. -/
def containers (g : DeviceGrid) : List (List Device) :=
  match g.activeGroup with
  | .all => g.visibleGroups.map g.devicesInGroup ++ if 0 < g.ungroupedDevices.length then [g.ungroupedDevices] else []
  -- A chosen group stands among the groups, and then by itself.
  | .group id => g.visibleGroups.map g.devicesInGroup ++ [g.devicesInGroupById id]
  | .ungrouped => [g.ungroupedDevices]

/-! ## `saveOrder` -/

/-- `reorderItems.push({ id: el.dataset.id, display_order: order++ })` for each card, from `order` on. -/
def numbered (ids : List Uuid) (order : ℕ) : List ReorderItem :=
  (ids.zipIdx order).map fun (id, i) => { id, displayOrder := i }

/-- The request body, from the cards as they stand in the containers. -/
def reorderItems (arranged : List (List Uuid)) : List ReorderItem := numbered arranged.flatten 0

/-- `const d = devices.find(d => d.id === item.id); if (d) d.display_order = item.display_order`. -/
def applyItem (item : ReorderItem) : List Device → List Device
  | [] => []
  | d :: devices =>
    if d.id = item.id then { d with displayOrder := item.displayOrder } :: devices else d :: applyItem item devices

/-- The status of the answer is not looked at; `answered` is false where `authFetch` throws. -/
def saveOrder (g : DeviceGrid) (arranged : List (List Uuid)) (answered : Bool) : DeviceGrid :=
  if answered then
    { g with devices := (reorderItems arranged).foldl (fun devices item => applyItem item devices) g.devices }
  else g

end DeviceGrid

/-! ## The cards in the containers -/

theorem byOrder_perm (devices : List Device) : (byOrder devices).Perm devices := List.mergeSort_perm _ _

theorem byOrder_pairwise (devices : List Device) :
    (byOrder devices).Pairwise fun a b => a.displayOrder ≤ b.displayOrder := by
  have htrans : ∀ a b c : Device, decide (a.displayOrder ≤ b.displayOrder) = true →
      decide (b.displayOrder ≤ c.displayOrder) = true → decide (a.displayOrder ≤ c.displayOrder) = true := by
    simp only [decide_eq_true_eq]
    exact fun a b c hab hbc => Int.le_trans hab hbc
  have htotal : ∀ a b : Device,
      (decide (a.displayOrder ≤ b.displayOrder) || decide (b.displayOrder ≤ a.displayOrder)) = true := by
    simp only [Bool.or_eq_true, decide_eq_true_eq]
    exact fun a b => Int.le_total _ _
  exact (List.pairwise_mergeSort htrans htotal devices).imp fun h => of_decide_eq_true h

namespace DeviceGrid

/-- Which devices stand in each container. -/
def sections (g : DeviceGrid) : List (Uuid → Bool) :=
  let inGroup (group : DeviceGroupRead) (id : Uuid) := (group.members.map DeviceGroupMember.deviceId).contains id
  let ungrouped (id : Uuid) := !g.allMemberIds.contains id
  match g.activeGroup with
  | .all => g.groups.map inGroup ++ if (g.devices.map Device.id).any ungrouped then [ungrouped] else []
  | .group id =>
    (g.groups.filter fun group => group.id == id).map inGroup ++
      [fun device => (g.groups.find? fun group => group.id == id).any fun group => inGroup group device]
  | .ungrouped => [ungrouped]

theorem byOrder_length_pos (devices : List Device) (p : Device → Bool) :
    0 < (byOrder (devices.filter p)).length ↔ devices.any p = true := by
  rw [(byOrder_perm _).length_eq, List.length_pos_iff_exists_mem, List.any_eq_true]
  exact exists_congr fun d => List.mem_filter

theorem containers_eq (g : DeviceGrid) :
    g.containers = g.sections.map fun p => byOrder (g.devices.filter fun d => p d.id) := by
  unfold containers sections visibleGroups
  cases g.activeGroup with
  | all =>
    have hpos : (g.devices.map Device.id).any (fun id => !g.allMemberIds.contains id) = true ↔
        0 < g.ungroupedDevices.length := by
      rw [ungroupedDevices, byOrder_length_pos, List.any_map]
      rfl
    simp only [hpos, List.map_append, List.map_map]
    split <;> rfl
  | ungrouped => rfl
  | group id =>
    simp only [List.map_append, List.map_map, List.map_cons, List.map_nil]
    congr 2
    unfold devicesInGroupById
    cases g.groups.find? fun group => group.id == id with
    | none => simp [byOrder]
    | some group => rfl

theorem count_container {g : DeviceGrid} (h : Unique Device.id g.devices) {d : Device} (hd : d ∈ g.devices)
    (p : Uuid → Bool) : (byOrder (g.devices.filter fun d => p d.id)).count d = if p d.id then 1 else 0 := by
  have hnodup : (g.devices.filter fun d => p d.id).Nodup := (List.Nodup.of_map _ h).filter _
  rw [(byOrder_perm _).count_eq, hnodup.count]
  simp only [List.mem_filter, hd, true_and]

theorem count_devicesInGroup {g : DeviceGrid} (h : Unique Device.id g.devices) {d : Device} (hd : d ∈ g.devices)
    (group : DeviceGroupRead) : (g.devicesInGroup group).count d =
      if (group.members.map DeviceGroupMember.deviceId).contains d.id then 1 else 0 :=
  count_container h hd fun id => (group.members.map DeviceGroupMember.deviceId).contains id

theorem count_ungroupedDevices {g : DeviceGrid} (h : Unique Device.id g.devices) {d : Device} (hd : d ∈ g.devices) :
    g.ungroupedDevices.count d = if g.allMemberIds.contains d.id then 0 else 1 := by
  rw [ungroupedDevices, count_container h hd fun id => !g.allMemberIds.contains id]
  cases g.allMemberIds.contains d.id <;> rfl

/-- The cards of a device are as many as the containers that ask for it. -/
theorem count_containers {g : DeviceGrid} (h : Unique Device.id g.devices) {d : Device} (hd : d ∈ g.devices) :
    g.containers.flatten.count d = g.sections.countP fun p => p d.id := by
  rw [containers_eq, List.count_flatten, List.map_map]
  induction g.sections with
  | nil => rfl
  | cons p sections ih =>
    rw [List.map_cons, List.sum_cons, ih, Function.comp_apply, count_container h hd, List.countP_cons, Nat.add_comm]

end DeviceGrid

/-! ## What is saved -/

theorem lastOrder_append (items later : List ReorderItem) (id : Uuid) :
    lastOrder (items ++ later) id = (lastOrder later id).or (lastOrder items id) := by
  rw [lastOrder, List.reverse_append, List.find?_append, Option.map_or]
  rfl

theorem lastOrder_eq_none {items : List ReorderItem} {id : Uuid} (h : ∀ item ∈ items, item.id ≠ id) :
    lastOrder items id = none := by
  have hnone : items.reverse.find? (fun item => decide (item.id = id)) = none :=
    List.find?_eq_none.mpr fun _ hitem => by simpa using h _ (List.mem_reverse.mp hitem)
  rw [lastOrder, hnone, Option.map_none]

namespace DeviceGrid

/-- A device after the items. -/
def reordered (items : List ReorderItem) (d : Device) : Device :=
  { d with displayOrder := (lastOrder items d.id).getD d.displayOrder }

theorem applyItem_eq (item : ReorderItem) {devices : List Device} (h : Unique Device.id devices) :
    applyItem item devices = devices.map (reordered [item]) := by
  induction devices with
  | nil => rfl
  | cons d devices ih =>
    obtain ⟨hnew, hrest⟩ := List.nodup_cons.mp h
    have hone : ∀ id, lastOrder [item] id = if item.id = id then some item.displayOrder else none := fun id =>
      lastOrder_cons item [] id
    rw [applyItem, List.map_cons]
    split
    · next hid =>
      have hhead : reordered [item] d = { d with displayOrder := item.displayOrder } := by
        rw [reordered, hone, if_pos hid.symm, Option.getD_some]
      have hkept : devices.map (reordered [item]) = devices := by
        refine (List.map_congr_left fun other hother => ?_).trans (List.map_id _)
        have hne : item.id ≠ other.id := fun heq => hnew (hid.trans heq ▸ List.mem_map_of_mem hother)
        rw [reordered, hone, if_neg hne, Option.getD_none]
        rfl
      rw [hhead, hkept]
    · next hid =>
      have hhead : reordered [item] d = d := by rw [reordered, hone, if_neg (Ne.symm hid), Option.getD_none]
      rw [hhead, ih hrest]

theorem reordered_cons (item : ReorderItem) (items : List ReorderItem) (d : Device) :
    reordered items (reordered [item] d) = reordered (item :: items) d := by
  rw [reordered, reordered, reordered, lastOrder_cons item items, lastOrder_cons item []]
  cases lastOrder items d.id <;> cases decide (item.id = d.id) <;> rfl

theorem foldl_applyItem (items : List ReorderItem) {devices : List Device} (h : Unique Device.id devices) :
    items.foldl (fun devices item => applyItem item devices) devices = devices.map (reordered items) := by
  induction items generalizing devices with
  | nil => exact (List.map_id _).symm
  | cons item items ih =>
    have hkeys : Unique Device.id (devices.map (reordered [item])) := h.update fun _ => rfl
    rw [List.foldl_cons, applyItem_eq item h, ih hkeys, List.map_map]
    exact List.map_congr_left fun d _ => reordered_cons item items d

theorem numbered_append (ids later : List Uuid) (order : ℕ) :
    numbered (ids ++ later) order = numbered ids order ++ numbered later (order + ids.length) := by
  rw [numbered, List.zipIdx_append, List.map_append]
  rfl

theorem id_mem_of_numbered {ids : List Uuid} {order : ℕ} {item : ReorderItem} (h : item ∈ numbered ids order) :
    item.id ∈ ids := by
  obtain ⟨⟨id, i⟩, hmem, rfl⟩ := List.mem_map.mp h
  exact List.fst_mem_of_mem_zipIdx hmem

theorem lastOrder_numbered_none {ids : List Uuid} {id : Uuid} (h : id ∉ ids) (order : ℕ) :
    lastOrder (numbered ids order) id = none :=
  lastOrder_eq_none fun _ hitem heq => h (heq ▸ id_mem_of_numbered hitem)

theorem lastOrder_numbered {ids : List Uuid} (h : ids.Nodup) {id : Uuid} (hid : id ∈ ids) (order : ℕ) :
    lastOrder (numbered ids order) id = some ((order + ids.idxOf id : ℕ) : Int) := by
  induction ids generalizing order with
  | nil => cases hid
  | cons first ids ih =>
    obtain ⟨hnew, hrest⟩ := List.nodup_cons.mp h
    have hcons : numbered (first :: ids) order = { id := first, displayOrder := order } :: numbered ids (order + 1) :=
      rfl
    rw [hcons, lastOrder_cons]
    rcases List.mem_cons.mp hid with rfl | hlater
    · rw [lastOrder_numbered_none hnew, if_pos rfl, List.idxOf_cons_self]
      rfl
    · have hne : first ≠ id := fun heq => hnew (heq ▸ hlater)
      rw [ih hrest hlater, Option.some_or, List.idxOf_cons_ne _ hne, Nat.add_right_comm, Nat.add_assoc]

/-- The last container that a device stands in gives its order. -/
theorem lastOrder_reorderItems {before after : List (List Uuid)} {ids : List Uuid} (h : ids.Nodup) {id : Uuid}
    (hid : id ∈ ids) (hlast : ∀ later ∈ after, id ∉ later) :
    lastOrder (reorderItems (before ++ ids :: after)) id =
      some ((before.flatten.length + ids.idxOf id : ℕ) : Int) := by
  have hafter : id ∉ after.flatten := fun hmem => by
    obtain ⟨later, hlater, hin⟩ := List.mem_flatten.mp hmem
    exact hlast later hlater hin
  rw [reorderItems, List.flatten_append, List.flatten_cons, numbered_append, numbered_append, lastOrder_append,
    lastOrder_append, lastOrder_numbered_none hafter, Option.none_or,
    lastOrder_numbered h hid, Option.some_or, Nat.zero_add]

/-! ## What is shown afterwards -/

theorem sections_saveOrder (g : DeviceGrid) {arranged : List (List Uuid)} (h : Unique Device.id g.devices)
    (answered : Bool) : (g.saveOrder arranged answered).sections = g.sections := by
  cases answered with
  | false => rfl
  | true =>
    have hids : ((reorderItems arranged).foldl (fun devices item => applyItem item devices) g.devices).map Device.id =
        g.devices.map Device.id := by
      rw [foldl_applyItem _ h, List.map_map]
      rfl
    unfold sections saveOrder allMemberIds
    simp only [if_pos]
    rw [hids]

/-- The cards of a container, after the order has been saved. -/
theorem shown_of_orders {ids : List Uuid} (start : ℕ) {devices : List Device} (h : ids.Nodup)
    (hperm : (devices.map Device.id).Perm ids)
    (horder : ∀ d ∈ devices, d.displayOrder = ((start + ids.idxOf d.id : ℕ) : Int)) :
    (byOrder devices).map Device.id = ids := by
  have hmem : ∀ d ∈ byOrder devices, d ∈ devices := fun d hd => (byOrder_perm devices).mem_iff.mp hd
  have hshown : ((byOrder devices).map Device.id).Pairwise fun a b => ids.idxOf a ≤ ids.idxOf b := by
    rw [List.pairwise_map]
    refine (byOrder_pairwise devices).imp_of_mem fun ha hb hle => ?_
    rw [horder _ (hmem _ ha), horder _ (hmem _ hb)] at hle
    omega
  have hids : ids.Pairwise fun a b => ids.idxOf a ≤ ids.idxOf b := by
    rw [List.pairwise_iff_getElem]
    intro i j hi hj hij
    rw [h.idxOf_getElem i hi, h.idxOf_getElem j hj]
    exact Nat.le_of_lt hij
  refine List.Perm.eq_of_pairwise (fun a b ha hb hab hba => ?_) hshown hids (((byOrder_perm devices).map _).trans hperm)
  have ha' : a ∈ ids := hperm.mem_iff.mp (((byOrder_perm devices).map Device.id).mem_iff.mp ha)
  exact (List.idxOf_inj ha').mp (Nat.le_antisymm hab hba)

/-- The devices of a container are listed as the user has arranged its cards, if none of them stands in a later container
    too; `authFetch` has to come back, with whatever answer. -/
theorem saved_as_arranged {g : DeviceGrid} (h : Unique Device.id g.devices) {before after : List (List Uuid)}
    {ids : List Uuid}
    (harranged : List.Forall₂ (fun ids shown => ids.Perm (shown.map Device.id)) (before ++ ids :: after) g.containers)
    (hlast : ∀ id ∈ ids, ∀ later ∈ after, id ∉ later) :
    ((g.saveOrder (before ++ ids :: after) true).containers.map (List.map Device.id))[before.length]? = some ids := by
  obtain ⟨p, hp, hperm⟩ : ∃ p, g.sections[before.length]? = some p ∧
      ids.Perm ((g.devices.filter fun d => p d.id).map Device.id) := by
    have hdrop := List.forall₂_drop_append _ _ _ harranged.flip
    obtain ⟨shown, rest, hshown, -, hcontainers⟩ := List.forall₂_cons_right_iff.mp hdrop
    have hhead : g.containers[before.length]? = some shown := by rw [← List.head?_drop, hcontainers, List.head?_cons]
    rw [containers_eq, List.getElem?_map, Option.map_eq_some_iff] at hhead
    obtain ⟨p, hp, rfl⟩ := hhead
    exact ⟨p, hp, hshown.trans ((byOrder_perm _).map Device.id)⟩
  have hnodup : ids.Nodup := hperm.nodup_iff.mpr (h.delete _)
  have hdevices : (g.saveOrder (before ++ ids :: after) true).devices.filter (fun d => p d.id) =
      (g.devices.filter fun d => p d.id).map (reordered (reorderItems (before ++ ids :: after))) := by
    simp only [saveOrder, if_pos]
    rw [foldl_applyItem _ h, List.filter_map]
    rfl
  have hshown : (byOrder ((g.saveOrder (before ++ ids :: after) true).devices.filter fun d => p d.id)).map Device.id =
      ids := by
    refine shown_of_orders before.flatten.length hnodup ?_ fun d hd => ?_
    · rw [hdevices, List.map_map]
      exact hperm.symm
    · rw [hdevices] at hd
      obtain ⟨old, hold, rfl⟩ := List.mem_map.mp hd
      have hid : old.id ∈ ids := hperm.mem_iff.mpr (List.mem_map_of_mem hold)
      rw [reordered, lastOrder_reorderItems hnodup hid (hlast old.id hid), Option.getD_some]
  rw [containers_eq, sections_saveOrder g h, List.getElem?_map, List.getElem?_map, hp, Option.map_some, Option.map_some,
    hshown]

/-- Two lamps in the kitchen, and a third that is in no group. -/
def lamps : DeviceGrid where
  devices :=
    [{ id := 1, ain := "1", name := "Decke", deviceType := "light" },
      { id := 2, ain := "2", name := "Herd", deviceType := "light" },
      { id := 3, ain := "3", name := "Flur", deviceType := "light" }]
  groups :=
    [{ id := 9, name := "Küche",
       members := [{ id := 11, groupId := 9, deviceId := 1 }, { id := 12, groupId := 9, deviceId := 2 }] }]

theorem lamps_saved_as_arranged :
    ((lamps.saveOrder [[2, 1], [3]] true).containers.map (List.map Device.id))[0]? = some [2, 1] := by
  let inKitchen := lamps.devices.filter fun d => List.contains [1, 2] d.id
  let others := lamps.devices.filter fun d => !List.contains [1, 2] d.id
  have hkitchen : List.Perm [2, 1] ((byOrder inKitchen).map Device.id) :=
    (List.Perm.swap 1 2 []).trans ((byOrder_perm inKitchen).map Device.id).symm
  have hothers : List.Perm [3] ((byOrder others).map Device.id) := ((byOrder_perm others).map Device.id).symm
  have harranged : List.Forall₂ (fun ids shown => ids.Perm (shown.map Device.id)) ([] ++ [2, 1] :: [[3]])
      lamps.containers := by
    rw [containers_eq]
    exact .cons hkitchen (.cons hothers .nil)
  have hunique : Unique Device.id lamps.devices := by
    unfold Keyed.Unique
    decide
  have hlast : ∀ id ∈ ([2, 1] : List Uuid), ∀ later ∈ [[3]], id ∉ later := by simp
  exact saved_as_arranged hunique harranged hlast

end DeviceGrid

/-! ## Every device is shown -/

/-- The table has the device in the group. -/
def isMember (t : GroupTables) (groupId deviceId : Uuid) : Bool :=
  t.members.any fun member => member.groupId == groupId && member.deviceId == deviceId

/-- The table has the device in some group. -/
def isGrouped (t : GroupTables) (deviceId : Uuid) : Bool := t.members.any fun member => member.deviceId == deviceId

/-- The memberships of a group. -/
def membersOf (t : GroupTables) (group : DeviceGroup) : List DeviceGroupMember :=
  t.members.filter fun member => member.groupId == group.id

/-- `get_all`: the groups with their members. -/
def listGroups (collate : String → String → Bool) (t : GroupTables) : List DeviceGroupRead :=
  (t.groups.mergeSort fun a b =>
      a.displayOrder < b.displayOrder || (a.displayOrder == b.displayOrder && collate a.name b.name)).map fun group =>
    { toDeviceGroup := group
      members := (membersOf t group).mergeSort fun a b => a.displayOrder ≤ b.displayOrder }

/-- `init`: the answers to the two requests. -/
def DeviceGrid.loaded (collate : String → String → Bool) (rows : List Devices.DeviceRow) (t : GroupTables) :
    DeviceGrid where
  devices := DeviceRepository.getAll collate (rows.map Devices.DeviceRow.toDevice) false
  groups := listGroups collate t

section Shown
variable {collate : String → String → Bool} {rows : List Devices.DeviceRow} {t : GroupTables}

/-- The memberships of a device are as many as the groups it is in. -/
theorem countP_groups (h : t.Intact (fun row : Devices.DeviceRow => row.id) rows) (deviceId : Uuid) :
    (t.groups.countP fun group => ((membersOf t group).map DeviceGroupMember.deviceId).contains deviceId) =
      t.members.countP fun member => member.deviceId == deviceId := by
  let holding := t.groups.filter fun group => ((membersOf t group).map DeviceGroupMember.deviceId).contains deviceId
  let memberships := t.members.filter fun member => member.deviceId == deviceId
  have hgroups : (holding.map DeviceGroup.id).Nodup := h.groups.delete _
  have hmembers : (memberships.map DeviceGroupMember.groupId).Nodup := by
    refine List.Nodup.map_on (fun a ha b hb hsame => ?_) (List.Nodup.filter _ (List.Nodup.of_map _ h.members))
    obtain ⟨ha, hadevice⟩ := List.mem_filter.mp ha
    obtain ⟨hb, hbdevice⟩ := List.mem_filter.mp hb
    have hdevice : a.deviceId = b.deviceId := (beq_iff_eq.mp hadevice).trans (beq_iff_eq.mp hbdevice).symm
    exact List.inj_on_of_nodup_map h.pairs ha hb (Prod.ext hsame hdevice)
  have hsame : (holding.map DeviceGroup.id).Perm (memberships.map DeviceGroupMember.groupId) := by
    refine (List.perm_ext_iff_of_nodup hgroups hmembers).mpr fun groupId => ?_
    simp only [holding, memberships, membersOf, List.mem_map, List.mem_filter, List.contains_iff_mem, beq_iff_eq]
    constructor
    · rintro ⟨group, ⟨-, member, ⟨hmember, hgroup⟩, hdevice⟩, rfl⟩
      exact ⟨member, ⟨hmember, hdevice⟩, hgroup⟩
    · rintro ⟨member, ⟨hmember, hdevice⟩, rfl⟩
      obtain ⟨group, hgroup, hid⟩ := h.group member hmember
      exact ⟨group, ⟨hgroup, member, ⟨hmember, hid.symm⟩, hdevice⟩, hid⟩
  have hlength := hsame.length_eq
  rw [List.length_map, List.length_map] at hlength
  rw [List.countP_eq_length_filter, List.countP_eq_length_filter]
  exact hlength

theorem Devices.unique_of_distinct (h : Devices.mapper.Distinct rows) :
    Unique (fun row : Devices.DeviceRow => row.id) rows := by
  refine List.pairwise_map.mpr (h.imp fun {a b} hne heq => ?_)
  rw [Orm.Mapper.collides, Orm.Mapper.sameKey, Bool.or_eq_false_iff] at hne
  exact ne_of_beq_false hne.1 heq.symm

theorem getAll_perm (devices : List Device) (hfew : (devices.filter fun d => d.isActive).length ≤ 200) :
    (DeviceRepository.getAll collate devices false).Perm (devices.filter fun d => d.isActive) := by
  rw [DeviceRepository.getAll, List.take_of_length_le (by rw [List.length_mergeSort]; exact hfew)]
  exact List.mergeSort_perm _ _

/-- The answer has room for 200 devices. -/
theorem loaded_perm (hfew : rows.countP (fun row => row.isActive) ≤ 200) :
    (DeviceGrid.loaded collate rows t).devices.Perm
      ((rows.map Devices.DeviceRow.toDevice).filter fun d => d.isActive) := by
  refine getAll_perm _ ?_
  rw [← List.countP_eq_length_filter, List.countP_map]
  exact hfew

theorem loaded_unique (h : Devices.mapper.Distinct rows) (hfew : rows.countP (fun row => row.isActive) ≤ 200) :
    Unique Device.id (DeviceGrid.loaded collate rows t).devices := by
  have hall : Unique Device.id (rows.map Devices.DeviceRow.toDevice) := by
    have hunique := Devices.unique_of_distinct h
    rwa [Keyed.Unique, List.map_map]
  exact (((loaded_perm hfew).map Device.id).nodup_iff).mpr (hall.delete _)

theorem mem_loaded_devices (hfew : rows.countP (fun row => row.isActive) ≤ 200) {d : Device} :
    d ∈ (DeviceGrid.loaded collate rows t).devices ↔
      d ∈ rows.map Devices.DeviceRow.toDevice ∧ d.isActive = true := by
  rw [(loaded_perm hfew).mem_iff, List.mem_filter]

theorem countP_sections {g : DeviceGrid} (hall : g.activeGroup = .all) {d : Device} (hd : d ∈ g.devices) :
    g.sections.countP (fun p => p d.id) =
      max 1 (g.groups.countP fun group => (group.members.map DeviceGroupMember.deviceId).contains d.id) := by
  have hmember : g.allMemberIds.contains d.id = true ↔
      0 < g.groups.countP fun group => (group.members.map DeviceGroupMember.deviceId).contains d.id := by
    rw [List.countP_pos_iff, DeviceGrid.allMemberIds, List.contains_iff_mem, List.mem_flatMap]
    simp only [List.contains_iff_mem]
  unfold DeviceGrid.sections
  rw [hall]
  dsimp only
  rw [List.countP_append, List.countP_map]
  cases hin : g.allMemberIds.contains d.id with
  | true =>
    have hpos := hmember.mp hin
    have hshown : ¬ (!g.allMemberIds.contains d.id) = true := by
      rw [hin]
      exact Bool.false_ne_true
    have hnone : (if (g.devices.map Device.id).any (fun id => !g.allMemberIds.contains id) then
        [fun id => !g.allMemberIds.contains id] else []).countP (fun p => p d.id) = 0 := by
      split
      · exact (List.countP_singleton).trans (if_neg hshown)
      · rfl
    rw [hnone, Nat.add_zero, Nat.max_eq_right hpos]
    rfl
  | false =>
    have hshown : (!g.allMemberIds.contains d.id) = true := by rw [hin, Bool.not_false]
    have hzero : (g.groups.countP fun group => (group.members.map DeviceGroupMember.deviceId).contains d.id) = 0 := by
      rw [hin] at hmember
      exact Nat.eq_zero_of_not_pos fun hpos => Bool.false_ne_true (hmember.mpr hpos)
    have hany : (g.devices.map Device.id).any (fun id => !g.allMemberIds.contains id) = true :=
      List.any_eq_true.mpr ⟨d.id, List.mem_map_of_mem hd, hshown⟩
    rw [if_pos hany, List.countP_singleton, if_pos hshown, hzero]
    exact congrArg (· + 1) hzero

theorem countP_listGroups (h : t.Intact (fun row : Devices.DeviceRow => row.id) rows) (deviceId : Uuid) :
    ((listGroups collate t).countP fun group => (group.members.map DeviceGroupMember.deviceId).contains deviceId) =
      t.members.countP fun member => member.deviceId == deviceId := by
  rw [← countP_groups h, listGroups, List.countP_map, (List.mergeSort_perm _ _).countP_eq]
  refine List.countP_congr fun group _ => ?_
  simp only [Function.comp_apply, List.contains_iff_mem]
  exact ((List.mergeSort_perm _ _).map _).mem_iff

theorem mem_of_mem_containers {g : DeviceGrid} {d : Device} (h : d ∈ g.containers.flatten) : d ∈ g.devices := by
  rw [DeviceGrid.containers_eq, List.mem_flatten] at h
  obtain ⟨container, hcontainer, hd⟩ := h
  obtain ⟨p, -, rfl⟩ := List.mem_map.mp hcontainer
  exact (List.mem_filter.mp ((byOrder_perm _).mem_iff.mp hd)).1

theorem count_of_notMem {g : DeviceGrid} {d : Device} (hd : d ∉ g.devices) :
    (∀ group, (g.devicesInGroup group).count d = 0) ∧ g.ungroupedDevices.count d = 0 ∧
      g.containers.flatten.count d = 0 := by
  have hfilter : ∀ p : Device → Bool, d ∉ byOrder (g.devices.filter p) := fun p hmem =>
    hd (List.mem_filter.mp ((byOrder_perm _).mem_iff.mp hmem)).1
  exact ⟨fun group => List.count_eq_zero.mpr (hfilter _), List.count_eq_zero.mpr (hfilter _),
    List.count_eq_zero.mpr fun hmem => hd (mem_of_mem_containers hmem)⟩

/-- The memberships that the page reads are those of the table. -/
theorem listGroups_members {group : DeviceGroupRead} (hgroup : group ∈ listGroups collate t) (deviceId : Uuid) :
    (group.members.map DeviceGroupMember.deviceId).contains deviceId = isMember t group.id deviceId := by
  obtain ⟨stored, -, rfl⟩ := List.mem_map.mp hgroup
  rw [Bool.eq_iff_iff, List.contains_iff_mem, ((List.mergeSort_perm _ _).map _).mem_iff, isMember, List.any_eq_true]
  simp only [membersOf, List.mem_map, List.mem_filter, Bool.and_eq_true, beq_iff_eq, and_assoc]

theorem listGroups_allMemberIds {stored : List Devices.DeviceRow}
    (h : t.Intact (fun row : Devices.DeviceRow => row.id) stored) (deviceId : Uuid) :
    (DeviceGrid.loaded collate rows t).allMemberIds.contains deviceId = isGrouped t deviceId := by
  rw [Bool.eq_iff_iff, DeviceGrid.allMemberIds, List.contains_iff_mem, List.mem_flatMap, isGrouped,
    List.any_eq_true]
  constructor
  · rintro ⟨group, hgroup, hmem⟩
    have hholds := listGroups_members hgroup deviceId
    rw [List.contains_iff_mem.mpr hmem] at hholds
    obtain ⟨member, hmember, hboth⟩ := List.any_eq_true.mp hholds.symm
    exact ⟨member, hmember, (Bool.and_eq_true_iff.mp hboth).2⟩
  · rintro ⟨member, hmember, hdevice⟩
    obtain ⟨stored, hstored, hid⟩ := h.group member hmember
    refine ⟨_, List.mem_map_of_mem ((List.mergeSort_perm _ _).mem_iff.mpr hstored), ?_⟩
    refine List.mem_map.mpr ⟨member, (List.mergeSort_perm _ _).mem_iff.mpr (List.mem_filter.mpr ⟨hmember, ?_⟩), ?_⟩
    · exact beq_iff_eq.mpr hid.symm
    · exact beq_iff_eq.mp hdevice

theorem listGroups_perm : ((listGroups collate t).map DeviceGroupRead.toDeviceGroup).Perm t.groups := by
  rw [listGroups, List.map_map]
  exact (List.map_id _).symm ▸ List.mergeSort_perm _ _

end Shown

/-- The dashboard has a container for each group of the table, and one below them for the other devices. Every active
    device of the table is shown once in the container of each of its groups, or once below where it is in none, and
    nowhere else; and no other device is shown. The devices and the groups may have been read in different states. -/
theorem dashboard_shows_devices {σ R T : Type} [DeviceReading R] (a : Setup σ R T) {h : House σ T} (hintact : h.Intact)
    (cache : TtlCache R) (es : List (AuditStep σ)) {s t : Cached (House σ T) R}
    (hs : Run.Visits a.step { world := h, cache } es s) (ht : Run.Visits a.step { world := h, cache } es t)
    (collate : String → String → Bool) (hfew : s.world.devices.rows.countP (fun row => row.isActive) ≤ 200)
    {row : Devices.DeviceRow} (hrow : row ∈ s.world.devices.rows) :
    let grid := DeviceGrid.loaded collate s.world.devices.rows t.world.groups
    (grid.groups.map DeviceGroupRead.toDeviceGroup).Perm t.world.groups.groups ∧
      grid.containers = grid.groups.map grid.devicesInGroup ++
        (if 0 < grid.ungroupedDevices.length then [grid.ungroupedDevices] else []) ∧
      (∀ group ∈ grid.groups, (grid.devicesInGroup group).count row.toDevice =
        if row.isActive && isMember t.world.groups group.id row.id then 1 else 0) ∧
      (grid.ungroupedDevices.count row.toDevice =
        if row.isActive && !isGrouped t.world.groups row.id then 1 else 0) ∧
      grid.containers.flatten.count row.toDevice =
        if row.isActive then max 1 (t.world.groups.members.countP fun member => member.deviceId == row.id) else 0 := by
  intro grid
  have hvisited : ∀ {u : Cached (House σ T) R}, Run.Visits a.step { world := h, cache } es u → u.world.Intact :=
    fun hu => Run.invariant_of_steps (I := fun u : Cached (House σ T) R => u.world.Intact)
      (fun hu hstep => by cases hstep; exact Setup.after_intact hu _) hintact hu
  refine ⟨listGroups_perm, rfl, ?_⟩
  cases hactive : row.isActive with
  | true =>
    have hd : row.toDevice ∈ grid.devices := (mem_loaded_devices hfew).mpr ⟨List.mem_map_of_mem hrow, hactive⟩
    have hunique : Unique Device.id grid.devices := loaded_unique (hvisited hs).devices hfew
    refine ⟨fun group hgroup => ?_, ?_, ?_⟩
    · rw [DeviceGrid.count_devicesInGroup hunique hd, Bool.true_and]
      exact congrArg (fun b : Bool => if b then 1 else 0) (listGroups_members hgroup row.id)
    · rw [DeviceGrid.count_ungroupedDevices hunique hd, Bool.true_and,
        listGroups_allMemberIds (hvisited ht).groups]
      cases isGrouped t.world.groups row.id <;> rfl
    · rw [DeviceGrid.count_containers hunique hd, countP_sections rfl hd, if_pos rfl]
      exact congrArg (max 1) (countP_listGroups (hvisited ht).groups row.id)
  | false =>
    have hd : row.toDevice ∉ grid.devices := fun hmem =>
      Bool.false_ne_true (hactive.symm.trans ((mem_loaded_devices hfew).mp hmem).2)
    obtain ⟨hgroups, hbelow, htotal⟩ := count_of_notMem hd
    exact ⟨fun group _ => hgroups group, hbelow, htotal⟩

/-- The charger is in the kitchen, and there only. -/
theorem household_shows_charger :
    let t := Setup.home.after { world := Setup.household, cache := .empty } Setup.discovery
    let grid := DeviceGrid.loaded (fun a b => decide (a ≤ b)) Setup.household.devices.rows t.world.groups
    (∀ group ∈ grid.groups, (grid.devicesInGroup group).count Setup.chargerRow.toDevice =
      if isMember t.world.groups group.id 7 then 1 else 0) ∧
      grid.ungroupedDevices.count Setup.chargerRow.toDevice = 0 ∧
      grid.containers.flatten.count Setup.chargerRow.toDevice = 1 := by
  obtain ⟨-, -, hgroups, hbelow, htotal⟩ :=
    dashboard_shows_devices Setup.home Setup.household_intact .empty [Setup.discovery] ⟨[], List.nil_prefix, rfl⟩
      ⟨[Setup.discovery], List.prefix_rfl, rfl⟩ (fun a b => decide (a ≤ b)) (by decide) (List.mem_singleton_self _)
  exact ⟨hgroups, hbelow, htotal⟩

end SmartHome.Ui
