import MessageInspector.Proofs.Viewer.SharedHistory
/-!
# Held answers

A show moves by its own next step only. So the answer that ends a call of a show stays with the show
until the show hands it to the viewer, whatever other shows do meanwhile.
-/
namespace MessageInspector

namespace SharedViewer
variable {console : Console} {actions : List Action} {i : Nat}

end SharedViewer
end MessageInspector
