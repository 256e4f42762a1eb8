import RowParity.Engine.Probing

/-!
# Taking a connection

A pool of one connection hands it out after a trivial query has shown that it answers. A connection
that does not is replaced, as often as patience lasts.
-/

namespace RowParity

def isMemoryConnection (connection : String) : Bool :=
  connection.isEmpty || connection == ":memory:"

/-- Takes a connection that answers the probe, out of at most so many; `cause` is the last
failure. -/
def Engine.checkout {σ : Type} (engine : Engine σ) :
    Nat → Option String → StateM σ (Except (Option String) Unit)
  | 0, cause => return .error cause
  | patience + 1, _ => do
    match ← engine.callAndRead Engine.probeStatement with
    | .ok _ => return .ok ()
    | .error text => engine.checkout patience (some text)

end RowParity
