import Telemetry.CommandLine.Run

set_option autoImplicit false

namespace Telemetry

open Delivery (Scene)
open Store (Files)

section Steps

variable {σ ε α β : Type} {before after : σ}

end Steps

namespace CommandLine.Job

variable {α : Type} {before after : Application × String}

end CommandLine.Job

end Telemetry
