import Nameplate.Graph
import Nameplate.Proofs.Resolution.Precedence

/-!
What a name depends on.

A resolution asks for tag values and for nothing else of the graph.  A device
answers its tags by itself.  A node answers node tags by itself and passes the
others on over its two links, so the rest of the graph counts only by five
properties of the linked objects.  A link that leads to no object of its kind
shows none of them, exactly like a link that is not there.
-/

namespace Nameplate

namespace Lookup

variable {lookup : Lookup} {target : Int}

theorem device?_eq_none (missing : ∀ device, lookup target ≠ some (.device device)) :
    lookup.device? (some target) = none := by
  rw [device?, Option.bind_some]
  split
  · rename_i device found
    exact absurd found (missing device)
  · rfl

theorem client?_eq_none (missing : ∀ client, lookup target ≠ some (.client client)) :
    lookup.client? (some target) = none := by
  rw [client?, Option.bind_some]
  split
  · rename_i client found
    exact absurd found (missing client)
  · rfl

end Lookup

/-- Two lookups show a node the same properties of its device and its client.  A
link that leads to no such object shows none. -/
structure Node.SeesAlike (node : Node) (first second : Lookup) : Prop where
  deviceName : (first.device? node.deviceId).bind Device.name =
    (second.device? node.deviceId).bind Device.name
  deviceNick : (first.device? node.deviceId).bind Device.nick =
    (second.device? node.deviceId).bind Device.nick
  deviceDescription : (first.device? node.deviceId).bind Device.description =
    (second.device? node.deviceId).bind Device.description
  applicationName : (first.client? node.clientId).bind Client.applicationName =
    (second.client? node.clientId).bind Client.applicationName
  processBinary : (first.client? node.clientId).bind Client.processBinary =
    (second.client? node.clientId).bind Client.processBinary

namespace Record

/-- A node answers a tag by its own property, or by a property of what its link
leads to. -/
theorem tagValue_node_congr {node other : Node} {lookup otherLookup : Lookup}
    (own : ∀ property, node.property property = other.property property)
    (device : ∀ property, (lookup.device? node.deviceId).bind (Device.property · property) =
      (otherLookup.device? other.deviceId).bind (Device.property · property))
    (client : ∀ property, (lookup.client? node.clientId).bind (Client.property · property) =
      (otherLookup.client? other.clientId).bind (Client.property · property)) (tag : Tag) :
    (Record.node node).tagValue lookup tag = (Record.node other).tagValue otherLookup tag := by
  cases tag with
  | device property => exact device property
  | node property => exact own property
  | client property => exact client property

end Record

theorem Node.SeesAlike.tagValue_eq {node : Node} {first second : Lookup}
    (alike : node.SeesAlike first second) (tag : Tag) :
    (Record.node node).tagValue first tag = (Record.node node).tagValue second tag := by
  refine Record.tagValue_node_congr (fun _ => rfl) ?_ ?_ tag
  · intro property
    cases property with
    | name => exact alike.deviceName
    | nick => exact alike.deviceNick
    | description => exact alike.deviceDescription
  · intro property
    cases property with
    | applicationName => exact alike.applicationName
    | processBinary => exact alike.processBinary

namespace Record

theorem tagValue_device (device : Device) (first second : Lookup) (tag : Tag) :
    (Record.device device).tagValue first tag = (Record.device device).tagValue second tag := by
  cases tag <;> rfl

theorem category_eq_of_mediaClass {node other : Node} (same : node.mediaClass = other.mediaClass) :
    (Record.node node).category = (Record.node other).category := by
  have endpoint : node.isEndpoint = other.isEndpoint := by
    rw [Node.isEndpoint, Node.isEndpoint, same]
  rw [category, category, category?, category?, endpoint]

/-- Only what the links of an object lead to counts among the records of a
lookup. -/
theorem tagValue_congr {record : Record} {first second : Lookup}
    (same : ∀ link target, record.link? link = some target → first target = second target)
    (tag : Tag) : record.tagValue first tag = record.tagValue second tag := by
  cases record with
  | device device => exact tagValue_device device first second tag
  | client client => cases tag <;> rfl
  | node node =>
      have deviceFound : node.deviceId.bind first = node.deviceId.bind second := by
        cases linked : node.deviceId with
        | none => rfl
        | some target => exact same .device target linked
      have clientFound : node.clientId.bind first = node.clientId.bind second := by
        cases linked : node.clientId with
        | none => rfl
        | some target => exact same .client target linked
      refine tagValue_node_congr (fun _ => rfl) ?_ ?_ tag
      · intro property
        rw [Lookup.device?, Lookup.device?, deviceFound]
      · intro property
        rw [Lookup.client?, Lookup.client?, clientFound]

end Record

/-- Two objects, each with its own view of the graph, get one resolution. -/
def Names.ResolveAlike (names : Names) (record : Record) (lookup : Lookup) (other : Record)
    (otherLookup : Lookup) : Prop :=
  ∃ resolution, (record.explain lookup names).outcome = .ok resolution ∧
    (other.explain otherLookup names).outcome = .ok resolution

/-- Objects of one category are named alike if they have the same name of their
own and answer every tag alike. -/
theorem Names.resolveAlike_of_tagValue {record other : Record} {lookup otherLookup : Lookup}
    (nameable : record.kind ≠ .client) (sameCategory : record.category = other.category)
    (sameName : record.ownName = other.ownName)
    (sameValues : ∀ tag, record.tagValue lookup tag = other.tagValue otherLookup tag)
    (names : Names) : names.ResolveAlike record lookup other otherLookup := by
  obtain ⟨category, categorized⟩ := Record.category_exists nameable
  have explained := Record.explain_of_category (sameCategory ▸ categorized) otherLookup names
  rw [← funext sameValues, ← sameName] at explained
  exact ⟨_, Record.explain_of_category categorized lookup names, explained⟩

theorem Names.resolveAlike_of_links (names : Names) :
    (∀ (node : Node) (first second : Lookup), node.SeesAlike first second →
      names.ResolveAlike (.node node) first (.node node) second) ∧
    (∀ (device : Device) (first second : Lookup),
      names.ResolveAlike (.device device) first (.device device) second) ∧
    (∀ (record : Record) (before after : Graph), record.kind ≠ .client →
      (∀ link target, record.link? link = some target →
        before.get? target = after.get? target) →
      names.ResolveAlike record before.get? record after.get?) ∧
    (∀ (node : Node) (lookup : Lookup) (target : Int), node.deviceId = some target →
      (∀ device, lookup target ≠ some (.device device)) →
      names.ResolveAlike (.node node) lookup (.node { node with deviceId := none }) lookup) ∧
    (∀ (node : Node) (lookup : Lookup) (target : Int), node.clientId = some target →
      (∀ client, lookup target ≠ some (.client client)) →
      names.ResolveAlike (.node node) lookup (.node { node with clientId := none }) lookup) := by
  refine ⟨?_, ?_, ?_, ?_, ?_⟩
  · intro node first second alike
    exact resolveAlike_of_tagValue (by nofun) rfl rfl alike.tagValue_eq names
  · intro device first second
    exact resolveAlike_of_tagValue (by nofun) rfl rfl (Record.tagValue_device device first second) names
  · intro record before after nameable same
    exact resolveAlike_of_tagValue nameable rfl rfl (Record.tagValue_congr same) names
  · intro node lookup target linked missing
    have unlinked : lookup.device? node.deviceId = none :=
      linked ▸ Lookup.device?_eq_none missing
    have sameCategory : (Record.node node).category =
        (Record.node { node with deviceId := none }).category := Record.category_eq_of_mediaClass rfl
    refine resolveAlike_of_tagValue (by nofun) sameCategory rfl ?_ names
    refine Record.tagValue_node_congr (fun _ => rfl) ?_ (fun _ => rfl)
    intro property
    rw [unlinked]
    rfl
  · intro node lookup target linked missing
    have unlinked : lookup.client? node.clientId = none :=
      linked ▸ Lookup.client?_eq_none missing
    have sameCategory : (Record.node node).category =
        (Record.node { node with clientId := none }).category := Record.category_eq_of_mediaClass rfl
    refine resolveAlike_of_tagValue (by nofun) sameCategory rfl ?_ names
    refine Record.tagValue_node_congr (fun _ => rfl) (fun _ => rfl) ?_
    intro property
    rw [unlinked]
    rfl

/-- A stream that is linked to itself in place of a device. -/
def Node.selfLinked : Node :=
  ⟨5, some "stream", none, none, none, none, some 5, some 7⟩

/-- A graph with that stream, its application and an unrelated device. -/
def Graph.aroundSelfLinked (nick : Option String) : Graph :=
  Graph.empty.adopt (IdMap.ofList [(9, .device ⟨9, none, nick, none⟩), (5, .node .selfLinked),
    (7, .client ⟨7, some "Firefox", none⟩)])

/-- The stream is named alike whatever the unrelated device is called, also when
its device is unknown, and a link to a stream counts as no link. -/
theorem Names.resolveAlike_of_links_selfLinked :
    Node.selfLinked.SeesAlike (Graph.aroundSelfLinked none).get?
        (Graph.aroundSelfLinked (some "HDA")).get? ∧
      Names.default.ResolveAlike (.node .selfLinked) (Graph.aroundSelfLinked none).get?
        (.node .selfLinked) (Graph.aroundSelfLinked (some "HDA")).get? ∧
      Names.default.ResolveAlike
        (.node { Node.selfLinked with deviceId := some 6 }) (Graph.aroundSelfLinked none).get?
        (.node { Node.selfLinked with deviceId := some 6 })
        (Graph.aroundSelfLinked (some "HDA")).get? ∧
      Names.default.ResolveAlike (.node .selfLinked) (Graph.aroundSelfLinked none).get?
        (.node { Node.selfLinked with deviceId := none }) (Graph.aroundSelfLinked none).get? ∧
      Names.default.ResolveAlike
        (.node { Node.selfLinked with clientId := some 5 }) (Graph.aroundSelfLinked none).get?
        (.node { Node.selfLinked with clientId := none }) (Graph.aroundSelfLinked none).get? := by
  obtain ⟨nodes, _, stores, devices, clients⟩ := Names.default.resolveAlike_of_links
  have alike : Node.selfLinked.SeesAlike (Graph.aroundSelfLinked none).get?
      (Graph.aroundSelfLinked (some "HDA")).get? := ⟨rfl, rfl, rfl, rfl, rfl⟩
  have found : (Graph.aroundSelfLinked none).get? 5 = some (.node .selfLinked) := rfl
  refine ⟨alike, nodes _ _ _ alike, ?_, ?_, ?_⟩
  · refine stores _ _ _ (by nofun) ?_
    intro link target linked
    cases link <;> cases linked <;> rfl
  · exact devices _ _ 5 rfl fun device => by rw [found]; nofun
  · exact clients { Node.selfLinked with clientId := some 5 } _ 5 rfl fun client => by
      rw [found]; nofun

end Nameplate
