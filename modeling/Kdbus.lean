import Kdbus.Memory
import Kdbus.Item
import Kdbus.Connection
import Kdbus.Endpoint
import Kdbus.EndpointLifecycle
import Kdbus.Metadata.Model
import Kdbus.Metadata.AppendItem
import Kdbus.Metadata.Layout
import Kdbus.Metadata.Producers
import Kdbus.Metadata.SrcNames
import Kdbus.Metadata.Append
import Kdbus.Metadata.Blob
import Kdbus.Metadata.Return
import Kdbus.Metadata.Caps
import Kdbus.Metadata.Compose
import Kdbus.Metadata.Refine
