import Mathlib.Data.List.Basic
import SphereCloud.Proofs.Cloud.Delivery
import SphereCloud.View.Viewer

/-!
What a viewer keeps and logs of the messages it is sent. It keeps what an archive keeps, less the
clouds that a later cloud with their label replaces.
-/

namespace SphereCloud

namespace Viewer

@[simp] theorem value_takeLayout (v : Viewer) (l : Layout) :
    (Receiver.takeLayout v l).value = { v with layout := l } := rfl

@[simp] theorem lines_takeLayout (v : Viewer) (l : Layout) :
    (Receiver.takeLayout v l).lines = [] := rfl

def unseen (label : String) : LogLine :=
  ⟨.warn, "Point set " ++ Text.quoted label ++ " has no view in the layout, it won't be shown"⟩

def received (cloud : Cloud Float) : LogLine :=
  ⟨.info, "Received " ++ toString cloud.positions.length ++ " points for " ++ cloud.label⟩

theorem takeCloud_eq (v : Viewer) (cloud : Cloud Float) :
    Receiver.takeCloud v cloud =
      ⟨v.keep cloud, (if v.layout.idxOf? cloud.label = none then [unseen cloud.label] else []) ++
        [received cloud]⟩ := by
  by_cases h : v.layout.idxOf? cloud.label = none
  · simp only [Receiver.takeCloud, h, Option.isNone_none, if_true]
    rfl
  · simp only [Receiver.takeCloud, Option.isNone_iff_eq_none, h, if_false]
    rfl

/-- Clouds that all have a view come in without a warning. -/
theorem level_ne_warn_of_deliver {clouds : List (Cloud Float)} {v : Viewer}
    (hshown : ∀ cloud ∈ clouds, v.layout.idxOf? cloud.label ≠ none) :
    ∀ line ∈ (deliver (clouds.map .cloud) v).lines, line.level ≠ .warn := by
  induction clouds generalizing v with
  | nil => simp [deliver]
  | cons cloud clouds ih =>
    obtain ⟨hcloud, hclouds⟩ := List.forall_mem_cons.mp hshown
    intro line hline
    simp only [List.map_cons, deliver, Message.announce, Message.send, Logged.lines_bind,
      takeCloud_eq, hcloud, if_false, log, List.mem_append, List.mem_singleton,
      List.nil_append] at hline
    rcases hline with rfl | rfl | hline
    · simp
    · simp [received]
    · exact ih (v := v.keep cloud) hclouds line hline

end Viewer

def sendAll {σ α : Type} [Receiver σ α] : List (Message α) → σ → Logged σ
  | [], state => pure state
  | message :: messages, state => message.send state >>= sendAll messages

namespace Message

variable {α : Type}

def layout? : Message α → Option Layout
  | .layout l => some l
  | .cloud _ => none

def cloud? : Message α → Option (Cloud α)
  | .layout _ => none
  | .cloud c => some c

end Message

namespace Archive

variable {α : Type}

def lastLayout (a : Archive α) : Layout :=
  a.layouts.getLast?.getD .empty

theorem value_sendAll (messages : List (Message α)) (a : Archive α) :
    (sendAll messages a).value =
      ⟨a.layouts ++ messages.filterMap Message.layout?,
        a.clouds ++ messages.filterMap Message.cloud?⟩ := by
  induction messages generalizing a with
  | nil => simp [sendAll]
  | cons message messages ih =>
    rw [sendAll, Logged.value_bind, ih]
    cases message with
    | layout l =>
      simp [Message.send, Receiver.takeLayout, List.filterMap_cons, Message.layout?, Message.cloud?]
    | cloud c =>
      simp [Message.send, Receiver.takeCloud, List.filterMap_cons, Message.layout?, Message.cloud?]

end Archive

namespace Cloud

variable {α : Type}

/-- The clouds that no later one with the same label replaces, in their order. -/
def latest : List (Cloud α) → List (Cloud α)
  | [] => []
  | cloud :: later =>
    if ∃ other ∈ later, other.label = cloud.label then latest later else cloud :: latest later

theorem mem_latest {clouds : List (Cloud α)} {cloud : Cloud α} :
    cloud ∈ latest clouds ↔ ∃ front back, clouds = front ++ cloud :: back ∧
      ∀ later ∈ back, later.label ≠ cloud.label := by
  induction clouds with
  | nil => simp [latest]
  | cons first clouds ih =>
    constructor
    · intro h
      rw [latest] at h
      split at h
      case isTrue =>
        obtain ⟨front, back, rfl, hback⟩ := ih.mp h
        exact ⟨first :: front, back, rfl, hback⟩
      case isFalse hnone =>
        rcases List.mem_cons.mp h with rfl | h
        · exact ⟨[], clouds, rfl, fun later hlater heq => hnone ⟨later, hlater, heq⟩⟩
        · obtain ⟨front, back, rfl, hback⟩ := ih.mp h
          exact ⟨first :: front, back, rfl, hback⟩
    · rintro ⟨front, back, hsplit, hback⟩
      rw [latest]
      cases front with
      | nil =>
        obtain ⟨rfl, rfl⟩ := List.cons.inj hsplit
        rw [if_neg fun ⟨later, hlater, heq⟩ => hback later hlater heq]
        exact List.mem_cons_self
      | cons _ front =>
        obtain ⟨rfl, rfl⟩ := List.cons.inj hsplit
        have hmem : cloud ∈ latest (front ++ cloud :: back) := ih.mpr ⟨front, back, rfl, hback⟩
        split
        case isTrue => exact hmem
        case isFalse => exact List.mem_cons_of_mem _ hmem

theorem latest_sublist (clouds : List (Cloud α)) : (latest clouds).Sublist clouds := by
  induction clouds with
  | nil => exact .slnil
  | cons cloud clouds ih =>
    rw [latest]
    split
    case isTrue => exact ih.cons cloud
    case isFalse => exact ih.cons_cons cloud

theorem nodup_labels_latest (clouds : List (Cloud α)) : ((latest clouds).map (·.label)).Nodup := by
  induction clouds with
  | nil => exact .nil
  | cons cloud clouds ih =>
    rw [latest]
    split
    case isTrue => exact ih
    case isFalse hnone =>
      refine List.nodup_cons.mpr ⟨fun hmem => ?_, ih⟩
      obtain ⟨other, hother, heq⟩ := List.mem_map.mp hmem
      exact hnone ⟨other, (latest_sublist clouds).subset hother, heq⟩

theorem exists_mem_latest {clouds : List (Cloud α)} {cloud : Cloud α} (h : cloud ∈ clouds) :
    ∃ kept ∈ latest clouds, kept.label = cloud.label := by
  induction clouds generalizing cloud with
  | nil => cases h
  | cons first clouds ih =>
    rw [latest]
    split
    case isTrue hlater =>
      rcases List.mem_cons.mp h with rfl | h
      · obtain ⟨other, hother, heq⟩ := hlater
        obtain ⟨kept, hkept, hlabel⟩ := ih hother
        exact ⟨kept, hkept, hlabel.trans heq⟩
      · exact ih h
    case isFalse =>
      rcases List.mem_cons.mp h with rfl | h
      · exact ⟨cloud, List.mem_cons_self, rfl⟩
      · obtain ⟨kept, hkept, hlabel⟩ := ih h
        exact ⟨kept, List.mem_cons_of_mem _ hkept, hlabel⟩

/-- What comes last replaces the one with its label, and nothing else. -/
theorem latest_append_singleton (clouds : List (Cloud α)) (cloud : Cloud α) :
    latest (clouds ++ [cloud]) =
      (latest clouds).filter (·.label ≠ cloud.label) ++ [cloud] := by
  induction clouds with
  | nil => simp [latest]
  | cons first clouds ih =>
    rw [List.cons_append, latest, latest, ih]
    by_cases hlabel : first.label = cloud.label
    · have hlater : ∃ other ∈ clouds ++ [cloud], other.label = first.label :=
        ⟨cloud, by simp, hlabel.symm⟩
      rw [if_pos hlater]
      split
      case isTrue => rfl
      case isFalse => rw [List.filter_cons_of_neg (by simpa using hlabel)]
    · -- The new cloud does not decide on `first`, so both sides ask the same of the others.
      have hlater : (∃ other ∈ clouds ++ [cloud], other.label = first.label) ↔
          ∃ other ∈ clouds, other.label = first.label := by
        simp [Ne.symm hlabel]
      simp only [hlater]
      split
      case isTrue => rfl
      case isFalse =>
        rw [List.filter_cons_of_pos (by simpa using hlabel), List.cons_append]

end Cloud

namespace Viewer

/-- A viewer that keeps what an archive says it should. -/
structure Refines (v : Viewer) (a : Archive Float) : Prop where
  layout_eq : v.layout = a.lastLayout
  clouds_eq : v.clouds = Cloud.latest a.clouds
  camera_eq : v.camera = .initial

theorem refines_initial : initial.Refines .empty :=
  ⟨rfl, rfl, rfl⟩

variable {v : Viewer} {a : Archive Float}

theorem Refines.send (h : v.Refines a) (message : Message Float) :
    (message.send v).value.Refines (message.send a).value := by
  cases message with
  | layout l =>
    refine ⟨?_, h.clouds_eq, h.camera_eq⟩
    simp [Message.send, Receiver.takeLayout, Archive.lastLayout]
  | cloud c =>
    rw [Message.send, takeCloud_eq]
    refine ⟨h.layout_eq, ?_, h.camera_eq⟩
    calc (v.keep c).clouds
        = (Cloud.latest a.clouds).filter (·.label ≠ c.label) ++ [c] := by rw [keep, h.clouds_eq]
      _ = Cloud.latest (a.clouds ++ [c]) := (Cloud.latest_append_singleton a.clouds c).symm

theorem Refines.sendAll (h : v.Refines a) (messages : List (Message Float)) :
    (sendAll messages v).value.Refines (sendAll messages a).value := by
  induction messages generalizing v a with
  | nil => exact h
  | cons message messages ih => exact ih (h.send message)

end Viewer

/-- A viewer and an archive that get the same messages: the viewer has the last layout and, of the
clouds, the latest of every label. A message changes nothing else, and a cloud is logged with a
warning in front if and only if the layout of the moment has no view of it. -/
theorem Viewer.refines_archive (messages : List (Message Float)) :
    let v := (sendAll messages Viewer.initial).value
    let a := (sendAll messages (Archive.empty (α := Float))).value
    (a.layouts = messages.filterMap Message.layout? ∧
      a.clouds = messages.filterMap Message.cloud?) ∧
    v.layout = a.lastLayout ∧ v.clouds = Cloud.latest a.clouds ∧ v.camera = .initial ∧
    (v.clouds.map (·.label)).Nodup ∧
    (∀ cloud, cloud ∈ v.clouds ↔ ∃ front back, a.clouds = front ++ cloud :: back ∧
      ∀ later ∈ back, later.label ≠ cloud.label) ∧
    (∀ cloud ∈ a.clouds, ∃ kept ∈ v.clouds, kept.label = cloud.label) ∧
    (∀ l, (Message.layout l).send v = ⟨{ v with layout := l }, []⟩) ∧
    ∀ cloud, ∃ after lines, (Message.cloud cloud).send v = ⟨after, lines⟩ ∧
      after.layout = v.layout ∧ after.camera = v.camera ∧
      after.clouds = v.clouds.filter (·.label ≠ cloud.label) ++ [cloud] ∧
      lines = (if a.lastLayout.idxOf? cloud.label = none then [unseen cloud.label] else []) ++
        [received cloud] := by
  intro v a
  have hvalue : a = ⟨messages.filterMap Message.layout?, messages.filterMap Message.cloud?⟩ :=
    Archive.value_sendAll messages .empty
  obtain ⟨hlayout, hclouds, hcamera⟩ := refines_initial.sendAll messages
  refine ⟨⟨by rw [hvalue], by rw [hvalue]⟩, hlayout, hclouds, hcamera, ?_, ?_, ?_, fun l => rfl, ?_⟩
  · rw [hclouds]
    exact Cloud.nodup_labels_latest a.clouds
  · intro cloud
    rw [hclouds]
    exact Cloud.mem_latest
  · intro cloud hcloud
    rw [hclouds]
    exact Cloud.exists_mem_latest hcloud
  · intro cloud
    refine ⟨v.keep cloud, _, takeCloud_eq v cloud, rfl, rfl, rfl, ?_⟩
    rw [← hlayout]

/-- The second of two clouds with one label is kept, with another cloud and a layout between
them. -/
theorem Viewer.refines_archive_relogged :
    let relogged : Cloud Float := ⟨"pcg_1", [⟨0.0, 0.0, 1.0⟩], 0x00FF0000⟩
    let messages : List (Message Float) :=
      [.cloud ⟨"pcg_1", [], 0x00FFFFFF⟩, .layout (.grid [1] Method.all), .cloud ⟨"pcg_2", [], 0⟩,
        .cloud relogged]
    relogged ∈ (sendAll messages Viewer.initial).value.clouds := by
  intro relogged messages
  obtain ⟨⟨-, harchived⟩, -, -, -, -, hkept, -⟩ := Viewer.refines_archive messages
  refine (hkept relogged).mpr ⟨[⟨"pcg_1", [], 0x00FFFFFF⟩, ⟨"pcg_2", [], 0⟩], [], ?_, by simp⟩
  rw [harchived]
  rfl

end SphereCloud
