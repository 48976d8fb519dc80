/-! The values of the headers of messages. -/

namespace ClusterInventory.Http

/-- The character may stand in the value of a header: any but controls, of which the tab may. -/
def isHeaderChar (c : Char) : Bool := c = '\t' || 0x20 ≤ c.toNat && c.toNat != 0x7F

def isHeaderValue (s : String) : Bool := s.toList.all isHeaderChar

end ClusterInventory.Http
