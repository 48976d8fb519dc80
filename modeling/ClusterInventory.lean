import ClusterInventory.Credentials.Timeline
import ClusterInventory.Delivery.Deliverer
import ClusterInventory.Main
import ClusterInventory.Proofs.Api.Catalog
import ClusterInventory.Proofs.Api.Paging
import ClusterInventory.Proofs.Collection.Breakdowns
import ClusterInventory.Proofs.Collection.EndlessListings
import ClusterInventory.Proofs.Collection.Hygiene
import ClusterInventory.Proofs.Collection.Jobs
import ClusterInventory.Proofs.Collection.Publication
import ClusterInventory.Proofs.Collection.Versions
import ClusterInventory.Proofs.Credentials.Rotation
import ClusterInventory.Proofs.Delivery.Acknowledgments
import ClusterInventory.Proofs.Delivery.Shipments
import ClusterInventory.Proofs.Ownership.Vanished
import ClusterInventory.Proofs.Delivery.Forms
import ClusterInventory.Proofs.ReadApi.Health
import ClusterInventory.Proofs.Record.Inventory
import ClusterInventory.Proofs.Record.Providers
import ClusterInventory.Proofs.Workloads.Generations
