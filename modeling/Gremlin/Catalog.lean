import Gremlin.Bestiary
import Gremlin.Catalog.Gremlins
import Gremlin.Catalog.Waves

set_option autoImplicit false

/-! The bestiary of the known gremlins, and what is wrong with it or with the predefined waves. -/

namespace Gremlin.Catalog

def bestiary : Bestiary := (Bestiary.load records).1

def errors : List ValidationError := (Bestiary.load records).2

def waveErrors : List WaveError := Wave.errors bestiary waves

end Gremlin.Catalog
