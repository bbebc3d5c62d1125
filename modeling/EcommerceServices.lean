import EcommerceServices.GoError
import EcommerceServices.Orders.Events
import EcommerceServices.Orders.ReadStore
import EcommerceServices.Orders.Projection
import EcommerceServices.Orders.Redelivery
import EcommerceServices.Orders.UniqueIndexes
import EcommerceServices.Orders.Denormalization
import EcommerceServices.Orders.KeyedReadModel
import EcommerceServices.Tracing.Exporters
import EcommerceServices.Tracing.ExporterCalls
import EcommerceServices.Tracing.Destinations
