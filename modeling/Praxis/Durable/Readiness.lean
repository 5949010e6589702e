import Praxis.Durable.Reducer

/-!
# Node readiness

When a node may start, by the states of the nodes its incoming edges come from. A condition
on an edge is evaluated on the projection of its source once that is terminal, and the join
policy of the node says how many of the active branches must succeed.
-/

namespace Praxis.Workflow

set_option autoImplicit false

open Praxis.Foundations

/-- Node states that no scheduler step waits for. -/
def terminalNodes : List WorkflowNodeStateV1 :=
  [.unknown, .skipped, .succeeded, .failed, .cancelled, .manualIntervention]

/-! ## Conditions -/

/-- Every occurrence of two characters in a row replaced by one. -/
def replacePair (first second replacement : Char) : List Char → List Char
  | a :: b :: rest =>
    if a = first ∧ b = second then replacement :: replacePair first second replacement rest
    else a :: replacePair first second replacement (b :: rest)
  | rest => rest

/-- The tokens of a pointer after its first character, unescaped. -/
def pointerTokens (pointer : String) : List String :=
  ((pointer.toList.drop 1).splitOn '/').map fun token =>
    String.ofList (replacePair '~' '0' '~' (replacePair '~' '1' '/' token))

def jsonPointer (value : Json) (pointer : String) : Option Json.Selected :=
  if pointer = "" then some (.value value) else Json.walk (pointerTokens pointer) (.value value)

/-- The projection of a node as conditions see it. -/
def nodeJson (node : WorkflowNodeProjectionV1) : Json :=
  .obj ([("nodeId", Json.str node.nodeId), ("state", .str node.state.text),
      ("attemptIds", .arr (node.attemptIds.map .str))] ++
    Json.field "errorCode" (node.errorCode.map .str) ++
    Json.field "resultRef" (node.resultRef.map fun ref =>
      .obj [("artifactId", .str ref.artifactId), ("digest", .str ref.digest),
        ("mediaType", .str ref.mediaType)]))

/-- The JSON text of what a pointer selects; undefined and functions have none. -/
def selectedText : Option Json.Selected → Option String
  | some (.value json) => some json.stringify
  | _ => none

def edgeMatches (source : WorkflowNodeProjectionV1) (edge : WorkflowEdgeV1) : Bool :=
  match edge.condition with
  | none => true
  | some condition =>
    let selected := match condition.pointer with
      | none => some (.value (nodeJson source))
      | some pointer => jsonPointer (nodeJson source) pointer
    match condition.operator with
    | .statusIs => condition.value == some (.str source.state.text)
    | .isPresent => selected.isSome
    | .isEqual => selectedText selected == condition.value.map (·.stringify)
    | .isIn =>
      match condition.value with
      | some (.arr values) => values.any fun value => selectedText selected == some value.stringify
      | _ => false

/-! ## Branches -/

inductive WorkflowNodeReadinessV1 where
  | waiting | ready | skipped | blocked
deriving DecidableEq

structure BranchCounts where
  active : Nat := 0
  succeeded : Nat := 0
  pending : Nat := 0

/-- The node that a map from ids holds for an id: of several with one id, the last. -/
def lastNode? (nodes : List WorkflowNodeProjectionV1) (nodeId : String) :
    Option WorkflowNodeProjectionV1 :=
  nodes.findRev? fun node => node.nodeId = nodeId

/-- One more incoming edge; `none` when its source is not in the projection. -/
def countBranch (nodes : List WorkflowNodeProjectionV1) (counts : BranchCounts)
    (edge : WorkflowEdgeV1) : Option BranchCounts := do
  let source ← lastNode? nodes edge.fromNode
  if source.state ∉ terminalNodes then
    -- Until its source is terminal a condition is a possible active branch.
    return { counts with active := counts.active + 1, pending := counts.pending + 1 }
  let selected := match edge.condition with
    | none => source.state != .skipped
    | some _ => edgeMatches source edge
  if !selected then return counts
  return { counts with
    active := counts.active + 1
    succeeded := if source.state = .succeeded then counts.succeeded + 1 else counts.succeeded }

/-- How many branches a join policy needs out of the active ones. -/
def requiredBranches (join : Option WorkflowJoinPolicyV1) (active : Nat) : Int :=
  match join with
  | some .any => 1
  | some (.quorum minimum) => minimum
  | _ => active

def workflowNodeReadinessV1 (projection : WorkflowProjectionV1) (nodeId : String) :
    WorkflowNodeReadinessV1 :=
  let incoming := projection.spec.edges.filter fun edge => edge.toNode = nodeId
  let join := (projection.spec.nodes.find? fun node => node.nodeId = nodeId).bind (·.join)
  if incoming = [] then .ready
  else match incoming.foldlM (countBranch projection.nodes) {} with
    | none => .blocked
    | some counts =>
      if counts.active = 0 then
        if join = none ∨ join = some .all then .skipped else .blocked
      else
        let minimum := requiredBranches join counts.active
        if minimum ≤ counts.succeeded then .ready
        else if (counts.succeeded + counts.pending : Int) < minimum then .blocked
        else .waiting

end Praxis.Workflow
