import HeapBridge.Proofs.Boundary.Describing
import HeapBridge.Proofs.Boundary.LastError
import HeapBridge.Proofs.Boundary.Rejections
import HeapBridge.Proofs.Copies.Isolation
import HeapBridge.Proofs.Custody.Proxies
import HeapBridge.Proofs.Failures.Unchanged
import HeapBridge.Proofs.Handles.Objects
import HeapBridge.Proofs.Handles.Provenance
import HeapBridge.Proofs.Iteration.Completeness
import HeapBridge.Proofs.Keys.Balance
import HeapBridge.Proofs.Members.Reuse
import HeapBridge.Proofs.Record.Registrations
import HeapBridge.Proofs.Registration.Converters
import HeapBridge.Proofs.Registration.Encodings
import HeapBridge.Proofs.Registration.Grammar
import HeapBridge.Proofs.Registration.Installation
import HeapBridge.Proofs.Registration.Isolation
import HeapBridge.Proofs.Registration.Sessions
import HeapBridge.Proofs.Sets.Transparency
import HeapBridge.Proofs.Surfacing.Requests
import HeapBridge.Proofs.Teardown.Confluence
import HeapBridge.Proofs.Texts.Decoding
import HeapBridge.Proofs.Values.RoundTrips
import HeapBridge.Session.Run
