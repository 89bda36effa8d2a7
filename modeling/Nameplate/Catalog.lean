import Nameplate.IdMap
import Nameplate.Record

/-!
Catalogs: the present records of the graph by id.

A catalog is what a reader of the registry sees.  Its order is the order in
which the ids last became present.
-/

namespace Nameplate

/-- Records by id, in order of registration. -/
abbrev Catalog := IdMap Record

namespace Catalog

def devices (catalog : Catalog) : List Device :=
  catalog.values.filterMap fun
    | .device device => some device
    | _ => none

def nodes (catalog : Catalog) : List Node :=
  catalog.values.filterMap fun
    | .node node => some node
    | _ => none

def clients (catalog : Catalog) : List Client :=
  catalog.values.filterMap fun
    | .client client => some client
    | _ => none

end Catalog

end Nameplate
